import EtherCat.Foundation.Tour
import EtherCat.Slave.Network

/-!
# The walk over the ports

`RecievedPorts` walks over the ports by which a frame enters the slaves.  It keeps the position
of the current slave and, in every slave, the port by which the slave was entered last.  It is a
`Tour.Walk`: the ports that a slave is still to be entered by are its current port and the
linked ports above.
-/

namespace EtherCat

open Rust Rust.Exec

/-- The position of a slave and the port by which a frame enters it. -/
abbrev RecievedPort := ℕ × ℕ

/-- The lowest linked port. -/
def firstPort (linkedPorts : Vector Bool 4) : Option ℕ := linkedPorts.toList.findIdx? id

/-- The lowest linked port above a port. -/
def nextPort (linkedPorts : Vector Bool 4) (currentPort : ℕ) : Option ℕ :=
  linkedPorts.toList.zipIdx.findIdx? fun (hasPort, portNum) => hasPort && currentPort < portNum

/-- The port at which the walk is. -/
def Slave.setCurrentPort (slave : Slave) (port : ℕ) : Slave :=
  { slave with dcContext := { slave.dcContext with currentPort := port } }

/-- The iterator over the ports by which a frame enters the slaves. -/
structure RecievedPorts where
  network : Network
  position : ℕ
  length : ℕ

namespace RecievedPorts

/-- The walk begins at the first slave, and at the first linked port of each. -/
def new (network : Network) : RecievedPorts where
  network := network.modifySlaves fun slave =>
    slave.setCurrentPort ((firstPort slave.info.linkedPorts).getD 4)
  position := 0
  length := (network.slaves.filterMap Prod.fst).length

/-- Note the port of the current slave and go to another position. -/
def moveTo (ports : RecievedPorts) (port position : ℕ) : RecievedPorts where
  network := ports.network.modifySlave ports.position fun slave => slave.setCurrentPort port
  position := position
  length := ports.length

/-- The next port of the current slave, if it has one, and the position to go on with. -/
def goOn (linkedPorts : Vector Bool 4) (currentPort position : ℕ) : Exec (ℕ × ℕ) :=
  match nextPort linkedPorts currentPort with
  | some nextPort => do .ok (nextPort, ← addUpTo 16 position 1)
  | none => .ok (4, if 1 ≤ position then position - 1 else position)

/-- The next place of the walk. -/
def next (ports : RecievedPorts) : Exec (Option RecievedPort × RecievedPorts) := do
  let slot ← index ports.network.slaves ports.position
  let slave ← unwrap slot.1
  let currentPort := slave.dcContext.currentPort
  let (port, position) ← goOn slave.info.linkedPorts currentPort ports.position
  .ok (if ports.position < ports.length ∧ currentPort < 4 then some (ports.position, currentPort)
    else none, ports.moveTo port position)

end RecievedPorts

/-- The walk over the slaves of a network. -/
def Network.recievedPorts (network : Network) : RecievedPorts := .new network

/-- What is left of the current ports of the slaves: every item takes some of it. -/
def RecievedPorts.remaining (ports : RecievedPorts) : ℕ :=
  (ports.network.slaves.map fun slot =>
    match slot.1 with
    | some slave => 4 - slave.dcContext.currentPort
    | none => 0).sum

/-! ## The ports of a slave -/

/-- The linked ports in ascending order. -/
def portNumbers (linkedPorts : Vector Bool 4) : List ℕ :=
  (List.range 4).filter fun port => linkedPorts[port]? = some true

/-- The current port and the linked ports above it; 4 stands for no port. -/
def aheadFrom (linkedPorts : Vector Bool 4) (currentPort : ℕ) : List ℕ :=
  if currentPort < 4 then currentPort :: (portNumbers linkedPorts).filter (currentPort < ·) else []

/-- The ports by which a slave is still to be entered. -/
def Slave.ahead (slave : Slave) : List ℕ :=
  aheadFrom slave.info.linkedPorts slave.dcContext.currentPort

/-- What holds of all four bits holds of all port vectors. -/
lemma forall_ports {P : Vector Bool 4 → Prop} (h : ∀ a b c d, P #v[a, b, c, d])
    (linkedPorts : Vector Bool 4) : P linkedPorts := by
  obtain ⟨⟨bits⟩, hsize⟩ := linkedPorts
  match bits, hsize with
  | [a, b, c, d], _ => exact h a b c d

/-- From the lowest linked port on, all linked ports are ahead. -/
lemma aheadFrom_firstPort (linkedPorts : Vector Bool 4) :
    aheadFrom linkedPorts ((firstPort linkedPorts).getD 4) = portNumbers linkedPorts := by
  revert linkedPorts
  apply forall_ports
  decide +kernel

/-- At the next port, the linked ports above the current one are ahead. -/
lemma aheadFrom_nextPort (linkedPorts : Vector Bool 4) (currentPort : ℕ) (h : currentPort < 4) :
    aheadFrom linkedPorts ((nextPort linkedPorts currentPort).getD 4) =
      (portNumbers linkedPorts).filter (currentPort < ·) := by
  revert currentPort linkedPorts
  apply forall_ports
  decide +kernel

lemma nextPort_eq_none_iff (linkedPorts : Vector Bool 4) (currentPort : ℕ) (h : currentPort < 4) :
    nextPort linkedPorts currentPort = none ↔
      (portNumbers linkedPorts).filter (currentPort < ·) = [] := by
  revert currentPort linkedPorts
  apply forall_ports
  decide +kernel

lemma lt_nextPort (linkedPorts : Vector Bool 4) (currentPort : ℕ) (h : currentPort < 4) :
    currentPort < (nextPort linkedPorts currentPort).getD 4 := by
  revert currentPort linkedPorts
  apply forall_ports
  decide +kernel

/-! ## The walk -/

namespace RecievedPorts

/-- The iterator is where the walk is, and the same ports are ahead. -/
structure Follows (ports : RecievedPorts) (w : Tour.Walk) : Prop where
  position : ports.position = w.position
  length : ports.length = w.ahead.length
  small : w.ahead.length < 2 ^ 16
  ahead : ∀ i, (ports.network.slaveAt i).map Slave.ahead = w.ahead[i]?

/-- Whatever a step yields, it only moves the iterator. -/
lemma next_eq_moveTo {ports ports' : RecievedPorts} {item : Option RecievedPort}
    (h : ports.next = .ok (item, ports')) :
    ∃ port position, ports' = ports.moveTo port position := by
  obtain ⟨_, -, h₁⟩ := bind_eq_ok.mp h
  obtain ⟨_, -, h₂⟩ := bind_eq_ok.mp h₁
  obtain ⟨⟨port, position⟩, -, h₃⟩ := bind_eq_ok.mp h₂
  cases h₃
  exact ⟨port, position, rfl⟩

/-- One step at a slave: to its next port and the next position, or out of it and back. -/
lemma next_of_slaveAt {ports : RecievedPorts} {slave : Slave}
    (h : ports.network.slaveAt ports.position = some slave)
    (hsmall : nextPort slave.info.linkedPorts slave.dcContext.currentPort ≠ none →
      ports.position + 1 < 2 ^ 16) :
    ports.next = .ok (if ports.position < ports.length ∧ slave.dcContext.currentPort < 4
        then some (ports.position, slave.dcContext.currentPort) else none,
      ports.moveTo ((nextPort slave.info.linkedPorts slave.dcContext.currentPort).getD 4)
        (if nextPort slave.info.linkedPorts slave.dcContext.currentPort = none
          then ports.position - 1 else ports.position + 1)) := by
  obtain ⟨config, hslot⟩ := Network.slaveAt_eq_some_iff.mp h
  unfold next goOn
  rw [index_eq_ok_iff.mpr hslot, ok_bind]
  simp only [unwrap_some, ok_bind]
  rcases hport : nextPort slave.info.linkedPorts slave.dcContext.currentPort with _ | port
  · have hback : (if 1 ≤ ports.position then ports.position - 1 else ports.position) =
        ports.position - 1 := by
      split <;> omega
    simp [hback]
  · have hadd : addUpTo 16 ports.position 1 = .ok (ports.position + 1) :=
      addUpTo_eq_ok_iff.mpr ⟨hsmall (by simp [hport]), rfl⟩
    simp [hadd]

lemma Follows.slaveAt {ports : RecievedPorts} {w : Tour.Walk} (h : ports.Follows w) {i : ℕ}
    {numbers : List ℕ} (hi : w.ahead[i]? = some numbers) :
    ∃ slave, ports.network.slaveAt i = some slave ∧ slave.ahead = numbers :=
  Option.map_eq_some_iff.mp ((h.ahead i).trans hi)

/-- The iterator makes the step the walk makes. -/
lemma Follows.next_item {ports : RecievedPorts} {w w' : Tour.Walk} (h : ports.Follows w)
    {place : RecievedPort} (hnext : w.next = .ok (some (place, w'))) :
    ∃ port, ports.next = .ok (some place, ports.moveTo port w'.position) ∧
      (ports.moveTo port w'.position).Follows w' := by
  obtain ⟨port, more, hhere, rfl, rfl⟩ := Tour.Walk.next_eq_some_iff.mp hnext
  obtain ⟨slave, hslave, hahead⟩ := h.slaveAt hhere
  have hlt : w.position < w.ahead.length := (List.getElem?_eq_some_iff.mp hhere).1
  -- The slave's current port is the one the walk enters it by.
  have hport : slave.dcContext.currentPort < 4 := by
    by_contra hge
    rw [Slave.ahead, aheadFrom, if_neg hge] at hahead
    cases hahead
  rw [Slave.ahead, aheadFrom, if_pos hport] at hahead
  obtain ⟨rfl, rfl⟩ := List.cons.inj hahead
  have hnone := nextPort_eq_none_iff slave.info.linkedPorts _ hport
  have hmore := aheadFrom_nextPort slave.info.linkedPorts _ hport
  refine ⟨(nextPort slave.info.linkedPorts slave.dcContext.currentPort).getD 4, ?_, ?_⟩
  · rw [next_of_slaveAt (h.position ▸ hslave)]
    · simp only [h.position, h.length, hlt, hport, and_self, if_true, hnone]
    · intro _
      have hpos := h.position
      have hsmall := h.small
      omega
  · refine ⟨rfl, ?_, ?_, fun i => ?_⟩
    · rw [List.length_set]
      exact h.length
    · rw [List.length_set]
      exact h.small
    · simp only [moveTo, Network.slaveAt_modifySlave, List.getElem?_set, h.position, hlt, if_true]
      split
      · next heq =>
          subst heq
          simp only [hslave, Option.map_some, ← hmore]
          rfl
      · exact h.ahead i

/-- Where the walk stops, the iterator stops. -/
lemma Follows.next_stop {ports : RecievedPorts} {w : Tour.Walk} (h : ports.Follows w)
    (hnext : w.next = .ok none) :
    ∃ port position, ports.next = .ok (none, ports.moveTo port position) := by
  have hhere := Tour.Walk.next_eq_none_iff.mp hnext
  obtain ⟨slave, hslave, hahead⟩ := h.slaveAt hhere
  have hlt : w.position < w.ahead.length := (List.getElem?_eq_some_iff.mp hhere).1
  have hport : ¬ slave.dcContext.currentPort < 4 := by
    intro hlt
    rw [Slave.ahead, aheadFrom, if_pos hlt] at hahead
    cases hahead
  have hstep := next_of_slaveAt (h.position ▸ hslave) fun _ => by
    have hpos := h.position
    have hsmall := h.small
    omega
  simp only [hport, and_false, if_false] at hstep
  exact ⟨_, _, hstep⟩

/-- Where the walk leaves the tree, the iterator panics. -/
lemma Follows.next_error {ports : RecievedPorts} {w : Tour.Walk} (h : ports.Follows w)
    {e : Panic} (hnext : w.next = .error e) : ∃ e', ports.next = .error e' := by
  have hout : ports.network.slaveAt ports.position = none := by
    rw [h.position, ← Option.map_eq_none_iff (f := Slave.ahead), h.ahead]
    rcases hhere : w.ahead[w.position]? with _ | _ | ⟨port, more⟩
    · rfl
    · cases (Tour.Walk.next_eq_none_iff.mpr hhere).symm.trans hnext
    · cases (Tour.Walk.next_eq_some_iff.mpr ⟨port, more, hhere, rfl, rfl⟩).symm.trans hnext
  rcases hstep : ports.next with e' | ⟨item, ports'⟩
  · exact ⟨e', rfl⟩
  · obtain ⟨slot, hslot, hrest⟩ := bind_eq_ok.mp hstep
    obtain ⟨slave, hslave, -⟩ := bind_eq_ok.mp hrest
    rw [Network.slaveAt, index_eq_ok_iff.mp hslot, Option.bind_some,
      unwrap_eq_ok_iff.mp hslave] at hout
    cases hout

/-- **The iterator is the walk.** -/
theorem Follows.yields_iff {ports : RecievedPorts} {w : Tour.Walk} (h : ports.Follows w)
    {items : List RecievedPort} :
    Yields (untilNone next) ports items ↔ Yields Tour.Walk.next w items := by
  refine yields_iff_of_follows Follows ?_ ?_ ?_ h
  · intro ports w place w' h hnext
    obtain ⟨port, hstep, hfollows⟩ := h.next_item hnext
    exact ⟨_, by simp [untilNone, hstep], hfollows⟩
  · intro ports w h hnext
    obtain ⟨port, position, hstep⟩ := h.next_stop hnext
    simp [untilNone, hstep]
  · intro ports w e h hnext
    obtain ⟨e', hstep⟩ := h.next_error hnext
    exact ⟨e', by simp [untilNone, hstep]⟩

/-! ## Termination -/

lemma sum_map_modify_lt {α : Type*} {l : List α} {i : ℕ} {f : α → α} {g : α → ℕ} {a : α}
    (h : l[i]? = some a) (hlt : g (f a) < g a) : ((l.modify i f).map g).sum < (l.map g).sum := by
  induction l generalizing i with
  | nil => simp at h
  | cons b l ih =>
      cases i with
      | zero =>
          obtain rfl := Option.some.inj h
          simp [hlt]
      | succ i => simpa using ih h

/-- Every item takes some of what is left of the current ports. -/
lemma remaining_next_lt {ports ports' : RecievedPorts} {place : RecievedPort}
    (h : ports.next = .ok (some place, ports')) : ports'.remaining < ports.remaining := by
  obtain ⟨⟨slot, config⟩, hslot, h₁⟩ := bind_eq_ok.mp h
  obtain ⟨slave, hslave, h₂⟩ := bind_eq_ok.mp h₁
  obtain ⟨⟨port, position⟩, hmove, h₃⟩ := bind_eq_ok.mp h₂
  obtain rfl : slot = some slave := unwrap_eq_ok_iff.mp hslave
  obtain ⟨hitem, rfl⟩ := Prod.mk.inj (Except.ok.inj h₃)
  obtain ⟨⟨-, hport⟩, -⟩ := Option.ite_none_right_eq_some.mp hitem
  have hlt := lt_nextPort slave.info.linkedPorts _ hport
  have hnext : slave.dcContext.currentPort < port := by
    unfold goOn at hmove
    rcases hp : nextPort slave.info.linkedPorts slave.dcContext.currentPort with _ | p
    · rw [hp] at hmove hlt
      cases hmove
      exact hlt
    · rw [hp] at hmove hlt
      obtain ⟨_, -, hmove⟩ := bind_eq_ok.mp hmove
      cases hmove
      exact hlt
  exact sum_map_modify_lt (index_eq_ok_iff.mp hslot) (Nat.sub_lt_sub_left hport hnext)

lemma remaining_le (ports : RecievedPorts) :
    ports.remaining ≤ 4 * ports.network.slaves.length := by
  unfold remaining
  induction ports.network.slaves with
  | nil => simp
  | cons slot slots ih =>
      obtain ⟨_ | slave, config⟩ := slot
      · simp only [List.map_cons, List.sum_cons, List.length_cons]
        omega
      · simp only [List.map_cons, List.sum_cons, List.length_cons]
        omega

/-- The items, in order. -/
def toList (ports : RecievedPorts) : Exec (List RecievedPort) :=
  collect (untilNone next) (4 * ports.network.slaves.length + 1) ports

/-- `toList` gives the items the iterator yields: the bound on their number is never reached. -/
theorem toList_eq_ok_iff {ports : RecievedPorts} {items : List RecievedPort} :
    ports.toList = .ok items ↔ Yields (untilNone next) ports items := by
  refine collect_eq_ok_iff remaining (fun s place s' hnext => ?_)
    (Nat.lt_succ_of_le ports.remaining_le)
  obtain ⟨⟨item, s''⟩, hstep, heq⟩ := bind_eq_ok.mp hnext
  obtain ⟨a, hitem, hpair⟩ := Option.map_eq_some_iff.mp (Except.ok.inj heq)
  cases hpair
  exact remaining_next_lt (hitem ▸ hstep)

end RecievedPorts

/-! ## Networks that are trees -/

/-- The linked ports of the slaves are those of a tree, in the order in which a frame reaches the
slaves; `entry` is the port by which it enters the first one. -/
structure Network.HasTree (network : Network) (entry : ℕ) (tree : Tour.Branches) : Prop where
  ports : ∀ i : ℕ, (network.slaveAt i).map (fun slave => portNumbers slave.info.linkedPorts) =
    ((entry :: tree.ports) :: tree.nodes)[i]?
  count : network.pushCount = tree.size + 1
  small : network.pushCount < 2 ^ 16

/-- The slots below the number of slaves are those with a slave. -/
lemma Network.HasTree.slaveAt_isSome_iff {network : Network} {entry : ℕ} {tree : Tour.Branches}
    (h : network.HasTree entry tree) (i : ℕ) :
    (network.slaveAt i).isSome ↔ i < network.pushCount := by
  have hsome := congrArg Option.isSome (h.ports i)
  rw [Option.isSome_map] at hsome
  rw [hsome, isSome_getElem?, List.length_cons, Tour.Branches.length_nodes, h.count]

/-- At its start the iterator follows the walk over the tree. -/
lemma Network.HasTree.follows {network : Network} {entry : ℕ} {tree : Tour.Branches}
    (h : network.HasTree entry tree) :
    network.recievedPorts.Follows ⟨(entry :: tree.ports) :: tree.nodes, 0⟩ := by
  have hlength : ((entry :: tree.ports) :: tree.nodes).length = network.pushCount := by
    rw [List.length_cons, Tour.Branches.length_nodes, h.count]
  refine ⟨rfl, ?_, by rw [hlength]; exact h.small, fun i => ?_⟩
  · exact (length_filterMap_of_forall h.slaveAt_isSome_iff).trans hlength.symm
  · rw [← h.ports i]
    simp only [recievedPorts, RecievedPorts.new, slaveAt_modifySlaves, Option.map_map]
    congr 1
    funext slave
    exact aheadFrom_firstPort slave.info.linkedPorts

/-- The iterator makes the complete tour of the tree exactly if the tree is a line. -/
theorem Network.HasTree.recievedPorts_eq_tour_iff {network : Network} {entry : ℕ}
    {tree : Tour.Branches} (h : network.HasTree entry tree) :
    network.recievedPorts.toList = .ok ((0, entry) :: tree.tour 0 1) ↔ tree.IsLine :=
  RecievedPorts.toList_eq_ok_iff.trans
    (h.follows.yields_iff.trans (Tour.Walk.yields_tour_iff entry tree))

end EtherCat
