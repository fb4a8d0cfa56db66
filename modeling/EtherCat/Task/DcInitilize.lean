import EtherCat.Slave.RecievedPorts
import EtherCat.Task.Error

/-!
# Setup of the distributed clocks: the topology

`start` walks over the ports by which a frame enters the slaves and notes for every slave its
parent: the slave and the port the walk was at last before it entered the slave for the first
time.
-/

namespace EtherCat

open Rust Rust.Exec

/-- The states: offsets and delays are cleared, eight rounds measure, the offsets and the delays are
written, and the drift is compensated until the differences are small. -/
inductive DcInitTask.State
  | idle
  | error (error : TaskError Unit)
  | clearOffset
  | clearDelay
  | requestToLatch (count : ℕ)
  | calculateDelay (count : ℕ) (position : ℕ)
  | setOffset (position : ℕ)
  | setDelay (position : ℕ)
  | compensateDrift (count : ℕ)
  | checkDelta
  | complete
  deriving DecidableEq, Repr

/-- The task that sets the distributed clocks up. -/
structure DcInitTask where
  state : DcInitTask.State
  command : Command
  firstDcSlave : Option ℕ
  dcSlaveCount : ℕ
  deriving DecidableEq, Repr

/-- The parent of the slave and the port of the parent that leads to it. -/
def Slave.setParentPort (slave : Slave) (parentPort : Option (ℕ × ℕ)) : Slave :=
  { slave with dcContext := { slave.dcContext with parentPort := parentPort } }

namespace DcInitTask

/-- The locals of the loop over the ports. -/
structure Locals where
  firstDcSlave : Option ℕ
  firstSlave : Option ℕ
  lastRecvSlave : ℕ
  lastRecvPort : ℕ

/-- The parent port of a slave after a visit. -/
def Locals.parentPort (locals : Locals) (slave : Slave) : Option (ℕ × ℕ) :=
  if locals.firstSlave.isNone then none
  else if slave.dcContext.parentPort.isNone then some (locals.lastRecvSlave, locals.lastRecvPort)
  else slave.dcContext.parentPort

/-- The locals after a visit. -/
def Locals.moveOn (locals : Locals) (slave : Slave) (recvPort : RecievedPort) : Locals where
  firstDcSlave :=
    if slave.info.supportDc ∧ locals.firstDcSlave.isNone then some recvPort.1
    else locals.firstDcSlave
  firstSlave := if locals.firstSlave.isNone then some recvPort.1 else locals.firstSlave
  lastRecvSlave := recvPort.1
  lastRecvPort := recvPort.2

/-- A change of a parent port while the iterator borrows the slaves. -/
def setParentPort (ports : RecievedPorts) (position : ℕ) (parentPort : Option (ℕ × ℕ)) :
    RecievedPorts :=
  { ports with network := ports.network.modifySlave position fun slave =>
      slave.setParentPort parentPort }

/-- The body of the loop over the ports. -/
def visit (recvPort : RecievedPort) :
    RecievedPorts × Locals → Exec (RecievedPorts × Locals)
  | (ports, locals) => do
    let found ← ports.network.slave (.slavePosition (UInt16.ofNat recvPort.1))
    let (slave, _) ← unwrap found
    .ok (setParentPort ports recvPort.1 (locals.parentPort slave), locals.moveOn slave recvPort)

/-- The body of the loop that counts the slaves with a distributed clock. -/
def countDc (network : Network) (count i : ℕ) : Exec ℕ := do
  let found ← network.slave (.slavePosition (UInt16.ofNat i))
  let (slave, _) ← unwrap found
  .ok (if slave.info.supportDc then count + 1 else count)

/-- The network with the clock data of all slaves reset. -/
def cleared (network : Network) : Network :=
  network.modifySlaves fun slave => { slave with dcContext := .default }

/-- The network is shared with the task, so that its slaves change. -/
def start (network : Network) : Exec (DcInitTask × Network) := do
  let network := cleared network
  let ports := network.recievedPorts
  let (ports, locals) ← forEach RecievedPorts.next visit (4 * network.slaves.length + 1)
    (ports, ⟨none, none, 0, 0⟩)
  let dcSlaveCount ← (List.range ports.network.numSlaves).foldlM (countDc ports.network) 0
  .ok ({ state := .clearOffset, command := .default, firstDcSlave := locals.firstDcSlave,
         dcSlaveCount := dcSlaveCount }, ports.network)

/-! ## The parents -/

/-- What the loop knows, as the visitor of a tour. -/
def view (st : RecievedPorts × Locals) : Tour.Visit where
  started := st.2.firstSlave.isSome
  last := (st.2.lastRecvSlave, st.2.lastRecvPort)
  parent := st.1.network.parentPort

/-- Moving the iterator does not change what the visitor has noted. -/
lemma view_moveTo (ports : RecievedPorts) (port position : ℕ) (locals : Locals) :
    view (ports.moveTo port position, locals) = view (ports, locals) := by
  simp only [view, RecievedPorts.moveTo, Tour.Visit.mk.injEq, true_and]
  funext i
  rw [Network.parentPort, Network.parentPort, Network.slaveAt_modifySlave]
  split
  · rcases ports.network.slaveAt i with _ | slave <;> rfl
  · rfl

/-- Changing a parent port keeps the iterator on its walk. -/
lemma follows_setParentPort {ports : RecievedPorts} {w : Tour.Walk} (h : ports.Follows w)
    (position : ℕ) (parentPort : Option (ℕ × ℕ)) :
    (setParentPort ports position parentPort).Follows w := by
  refine ⟨h.position, h.length, h.small, fun i => ?_⟩
  rw [← h.ahead i]
  simp only [setParentPort, Network.slaveAt_modifySlave]
  split
  · rcases ports.network.slaveAt i with _ | slave <;> rfl
  · rfl

/-- The body visits the slave. -/
lemma view_visit {ports : RecievedPorts} {locals : Locals} {place : RecievedPort} {slave : Slave}
    (h : ports.network.slaveAt place.1 = some slave) :
    view (setParentPort ports place.1 (locals.parentPort slave), locals.moveOn slave place) =
      (view (ports, locals)).step place := by
  have hparent : ((view (ports, locals)).parent place.1) = slave.dcContext.parentPort := by
    simp [view, Network.parentPort, h]
  unfold Tour.Visit.step
  rw [hparent]
  simp only [view, setParentPort, Locals.moveOn, Tour.Visit.mk.injEq]
  refine ⟨by cases locals.firstSlave <;> rfl, trivial, ?_⟩
  funext i
  rw [Network.parentPort, Network.slaveAt_modifySlave]
  by_cases hi : place.1 = i
  · subst hi
    by_cases hfirst : locals.firstSlave = none
    · simp [h, Slave.setParentPort, Locals.parentPort, hfirst]
    · by_cases hport : slave.dcContext.parentPort = none
      · simp [h, Slave.setParentPort, Locals.parentPort, hfirst, hport]
      · simp [h, Slave.setParentPort, Locals.parentPort, hfirst, hport, Network.parentPort]
  · rw [if_neg hi]
    by_cases hfirst : locals.firstSlave = none
    · simp [hfirst, Ne.symm hi, Network.parentPort]
    · by_cases hport : slave.dcContext.parentPort = none
      · simp [hfirst, hport, Ne.symm hi, Network.parentPort]
      · simp [hfirst, hport, Network.parentPort]

/-- What the loop never changes: the number of slaves and what is known about them. -/
def frame (ports : RecievedPorts) : ℕ × (ℕ → Option SlaveInfo) :=
  (ports.network.pushCount, fun i => (ports.network.slaveAt i).map Slave.info)

lemma frame_next {ports ports' : RecievedPorts} {item : Option RecievedPort}
    (h : ports.next = .ok (item, ports')) : frame ports' = frame ports := by
  obtain ⟨port, position, rfl⟩ := RecievedPorts.next_eq_moveTo h
  simp only [frame, RecievedPorts.moveTo, Network.slaveAt_modifySlave, Prod.mk.injEq]
  refine ⟨rfl, funext fun i => ?_⟩
  split
  · rcases ports.network.slaveAt i with _ | slave <;> rfl
  · rfl

lemma frame_setParentPort (ports : RecievedPorts) (position : ℕ) (parentPort : Option (ℕ × ℕ)) :
    frame (setParentPort ports position parentPort) = frame ports := by
  simp only [frame, setParentPort, Network.slaveAt_modifySlave, Prod.mk.injEq]
  refine ⟨rfl, funext fun i => ?_⟩
  split
  · rcases ports.network.slaveAt i with _ | slave <;> rfl
  · rfl

lemma frame_visit {ports ports' : RecievedPorts} {locals locals' : Locals} {place : RecievedPort}
    (h : visit place (ports, locals) = .ok (ports', locals')) : frame ports' = frame ports := by
  obtain ⟨found, -, hrest⟩ := bind_eq_ok.mp h
  obtain ⟨⟨slave, config⟩, -, heq⟩ := bind_eq_ok.mp hrest
  cases heq
  exact frame_setParentPort ports _ _

/-- The loop over the ports of a complete walk returns, and changes by each of its places what is
seen of its state. -/
lemma forEach_visit_view {ρ : Type} (view : RecievedPorts × Locals → ρ) (f : ρ → RecievedPort → ρ)
    (hmove : ∀ (ports : RecievedPorts) (port position : ℕ) (locals : Locals),
      view (ports.moveTo port position, locals) = view (ports, locals))
    (hvisit : ∀ (ports : RecievedPorts) (locals : Locals) (place : RecievedPort) (slave : Slave),
      ports.network.slaveAt place.1 = some slave →
      view (setParentPort ports place.1 (locals.parentPort slave), locals.moveOn slave place) =
        f (view (ports, locals)) place)
    {ports : RecievedPorts} {w : Tour.Walk} {places : List RecievedPort} (h : ports.Follows w)
    (hcount : ports.network.pushCount = w.ahead.length) (hyields : Yields Tour.Walk.next w places)
    (locals : Locals) {fuel : ℕ} (hfuel : places.length < fuel) :
    ∃ ports' locals', forEach RecievedPorts.next visit fuel (ports, locals) =
        .ok (ports', locals') ∧ view (ports', locals') = places.foldl f (view (ports, locals)) := by
  refine forEach_eq_foldl
    (fun ports w => ports.Follows w ∧ ports.network.pushCount = w.ahead.length)
    Tour.Walk.next view f ?_ ?_ ?_ hyields ⟨h, hcount⟩ locals hfuel
  · rintro ports w place w' ⟨h, hcount⟩ hnext
    obtain ⟨port, hstep, hfollows⟩ := h.next_item hnext
    refine ⟨_, hstep, ⟨hfollows, ?_⟩, hmove ports _ _⟩
    rw [← hfollows.length]
    exact hcount.trans h.length.symm
  · rintro ports w ⟨h, -⟩ hnext
    obtain ⟨port, position, hstep⟩ := h.next_stop hnext
    exact ⟨_, hstep, hmove ports _ _⟩
  · rintro ports locals w place w' hnext ⟨h, hcount⟩
    obtain ⟨port, more, hhere, rfl, rfl⟩ := Tour.Walk.next_eq_some_iff.mp hnext
    have hlt := (List.getElem?_eq_some_iff.mp hhere).1
    simp only [List.length_set] at hcount
    have hsmall := h.small
    rw [List.length_set] at hsmall
    obtain ⟨slave, hslave, -⟩ := h.slaveAt (List.getElem?_set_self hlt)
    obtain ⟨config, hfound⟩ := Network.slave_slavePosition (by omega) (by omega) hslave
    refine ⟨_, _, ?_, ⟨follows_setParentPort h _ _, ?_⟩, hvisit _ _ _ _ hslave⟩
    · simp [visit, hfound]
    · simpa [setParentPort, Network.modifySlave] using hcount

/-- The loop over the ports of a complete walk folds the visitor over its places. -/
lemma forEach_visit {ports : RecievedPorts} {w : Tour.Walk} {places : List RecievedPort}
    (h : ports.Follows w) (hcount : ports.network.pushCount = w.ahead.length)
    (hyields : Yields Tour.Walk.next w places) (locals : Locals) {fuel : ℕ}
    (hfuel : places.length < fuel) :
    ∃ ports' locals', forEach RecievedPorts.next visit fuel (ports, locals) =
        .ok (ports', locals') ∧
      view (ports', locals') = places.foldl Tour.Visit.step (view (ports, locals)) :=
  forEach_visit_view view Tour.Visit.step view_moveTo
    (fun _ _ _ _ hslave => view_visit hslave) h hcount hyields locals hfuel

lemma remaining_setParentPort (ports : RecievedPorts) (position : ℕ)
    (parentPort : Option (ℕ × ℕ)) :
    (setParentPort ports position parentPort).remaining = ports.remaining := by
  unfold RecievedPorts.remaining setParentPort Network.modifySlave
  congr 1
  refine List.ext_getElem? fun i => ?_
  simp only [List.getElem?_map, List.getElem?_modify]
  rcases ports.network.slaves[i]? with _ | ⟨_ | slave, config⟩
  · rfl
  · split <;> rfl
  · split <;> rfl

/-- The bound on the turns of the loop in `start` is never reached: more turns change nothing. -/
theorem forEach_visit_fuel {ports : RecievedPorts} {locals : Locals} {fuel : ℕ}
    (h : ports.remaining < fuel) :
    forEach RecievedPorts.next visit fuel (ports, locals) =
      forEach RecievedPorts.next visit (4 * ports.network.slaves.length + 1) (ports, locals) := by
  refine forEach_eq_of_lt RecievedPorts.remaining
    (fun _ _ _ hnext => RecievedPorts.remaining_next_lt hnext) ?_ h
    (Nat.lt_succ_of_le ports.remaining_le)
  intro place ports locals ports' locals' hvisit
  obtain ⟨found, -, hrest⟩ := bind_eq_ok.mp hvisit
  obtain ⟨⟨slave, config⟩, -, heq⟩ := bind_eq_ok.mp hrest
  cases heq
  exact (remaining_setParentPort ports _ _).le

end DcInitTask

end EtherCat
