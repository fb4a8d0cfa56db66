import EtherCat.Foundation.HalfAverage
import EtherCat.Task.DcStart

/-!
# What a measurement of `DcInitTask` does

A response with receive times changes the clock data of one slave: the receive times, the time
latched at its first linked port, and its delay if it is behind the first clock.  The end of a round
changes the offsets of all slaves by the latest of the latched times, and never fails.
-/

namespace EtherCat

open Rust Rust.Exec BitField

namespace DcInitTask

/-! ## The clock data that `start` leaves -/

/-- The clock data of the slave at a position. -/
def clockAt (network : Network) (i : ℕ) : Option DcContext :=
  (network.slaveAt i).map Slave.dcContext

/-- Nothing was measured. -/
def Unmeasured (network : Network) : Prop :=
  ∀ i dc, clockAt network i = some dc → dc.delay = 0 ∧ dc.offset = 0

lemma unmeasured_cleared (network : Network) : Unmeasured (cleared network) := by
  intro i dc hdc
  rw [clockAt, cleared, Network.slaveAt_modifySlaves, Option.map_map] at hdc
  obtain ⟨slave, -, rfl⟩ := Option.map_eq_some_iff.mp hdc
  exact ⟨rfl, rfl⟩

/-- What `start` does with the slaves, once their clock data are cleared, is no measurement. -/
def measurements (ports : RecievedPorts) : ℕ → Option (UInt32 × UInt64) := fun i =>
  (ports.network.slaveAt i).map fun slave => (slave.dcContext.delay, slave.dcContext.offset)

lemma measurements_next {ports ports' : RecievedPorts} {item : Option RecievedPort}
    (h : ports.next = .ok (item, ports')) : measurements ports' = measurements ports := by
  obtain ⟨port, position, rfl⟩ := RecievedPorts.next_eq_moveTo h
  funext i
  simp only [measurements, RecievedPorts.moveTo, Network.slaveAt_modifySlave]
  split
  · rcases ports.network.slaveAt i with _ | slave <;> rfl
  · rfl

lemma measurements_visit {ports ports' : RecievedPorts} {locals locals' : Locals}
    {place : RecievedPort} (h : visit place (ports, locals) = .ok (ports', locals')) :
    measurements ports' = measurements ports := by
  obtain ⟨found, -, hrest⟩ := bind_eq_ok.mp h
  obtain ⟨⟨slave, config⟩, -, heq⟩ := bind_eq_ok.mp hrest
  cases heq
  funext i
  simp only [measurements, setParentPort, Network.slaveAt_modifySlave]
  split
  · rcases ports.network.slaveAt i with _ | slave <;> rfl
  · rfl

lemma start_unmeasured {network network' : Network} {task : DcInitTask}
    (h : start network = .ok (task, network')) : Unmeasured network' := by
  obtain ⟨⟨ports, locals⟩, hloop, h⟩ := bind_eq_ok.mp h
  obtain ⟨count, -, heq⟩ := bind_eq_ok.mp h
  cases heq
  have hkept : measurements ports = measurements (cleared network).recievedPorts :=
    forEach_frame measurements (fun _ _ _ => measurements_next)
      (fun _ _ _ _ _ => measurements_visit) hloop
  intro i dc hdc
  obtain ⟨slave, hslave, rfl⟩ := Option.map_eq_some_iff.mp hdc
  have hi := congrFun hkept i
  simp only [measurements, hslave, Network.recievedPorts, RecievedPorts.new,
    Network.slaveAt_modifySlaves, Option.map_map] at hi
  obtain ⟨slave', hslave', heq⟩ := Option.map_eq_some_iff.mp hi.symm
  obtain ⟨hdelay, hoffset⟩ := unmeasured_cleared network i slave'.dcContext (by
    rw [clockAt, hslave']
    rfl)
  obtain ⟨hdelay', hoffset'⟩ := Prod.mk.inj heq
  exact ⟨hdelay'.symm.trans hdelay, hoffset'.symm.trans hoffset⟩

/-! ## Receive times -/

lemma slaveOf_eq_ok_iff {network : Network} (hfilled : network.Filled) {pos : ℕ}
    (hpos : pos < 2 ^ 16) {slave : Slave} :
    slaveOf network pos = .ok slave ↔ network.slaveAt pos = some slave := by
  have hofNat : (UInt16.ofNat pos).toNat = pos := by
    rw [UInt16.toNat_ofNat']
    omega
  rw [slaveOf, hfilled.slave_eq, ok_bind, Network.slaveAt_eq_map_slotAt]
  simp only [Network.position, Option.bind_some, hofNat]
  rcases network.slotAt pos with _ | ⟨slave', config⟩
  · simp [unwrap]
  · simp

/-- The receive times in the data. -/
def portTimes (data : List UInt8) : Vector UInt32 4 :=
  #v[.ofNat ((DcRecieveTime.receiveTimePort 0).val data),
    .ofNat ((DcRecieveTime.receiveTimePort 1).val data),
    .ofNat ((DcRecieveTime.receiveTimePort 2).val data),
    .ofNat ((DcRecieveTime.receiveTimePort 3).val data)]

lemma fits_receiveTimePort {data : List UInt8} (h : DcRecieveTime.size ≤ data.length) {port : ℕ}
    (hport : port < 4) : (DcRecieveTime.receiveTimePort port).Fits data := by
  rw [DcRecieveTime.size] at h
  change (32 * port + 31) / 8 < data.length
  omega

/-- The receive time of a port. -/
lemma getElem?_portTimes (data : List UInt8) {port : ℕ} (hport : port < 4) :
    (portTimes data).toList[port]? =
      some (.ofNat ((DcRecieveTime.receiveTimePort port).val data)) := by
  match port, hport with
  | 0, _ | 1, _ | 2, _ | 3, _ => rfl

lemma firstPort_lt {linkedPorts : Vector Bool 4} {port : ℕ}
    (h : firstPort linkedPorts = some port) : port < 4 := by
  have hlt := (List.findIdx?_eq_some_iff_getElem.mp h).1
  rwa [Vector.length_toList] at hlt

/-- **What a slave has latched.** -/
lemma latch_eq_ok_iff {slave : Slave} {data : List UInt8} (hdata : DcRecieveTime.size ≤ data.length)
    {context : DcContext} {port : ℕ} :
    latch slave data = .ok (context, port) ↔ firstPort slave.info.linkedPorts = some port ∧
      context = { slave.dcContext with
        recievedPortTime := portTimes data
        latchedLocalSysTime :=
          (UInt32.ofNat ((DcRecieveTime.receiveTimePort port).val data)).toUInt64 } := by
  have htimes : latch slave data = (do
      let firstRecievedPort ← unwrap (firstPort slave.info.linkedPorts)
      let time ← index (portTimes data).toList firstRecievedPort
      .ok ({ slave.dcContext with
        recievedPortTime := portTimes data, latchedLocalSysTime := time.toUInt64 },
        firstRecievedPort)) := by
    unfold latch
    rw [Field.get_of_fits (fits_receiveTimePort hdata (by decide : 0 < 4)), ok_bind,
      Field.get_of_fits (fits_receiveTimePort hdata (by decide : 1 < 4)), ok_bind,
      Field.get_of_fits (fits_receiveTimePort hdata (by decide : 2 < 4)), ok_bind,
      Field.get_of_fits (fits_receiveTimePort hdata (by decide : 3 < 4)), ok_bind]
    rfl
  rw [htimes]
  rcases hfirst : firstPort slave.info.linkedPorts with _ | first
  · constructor
    · intro h
      cases h
    · rintro ⟨h, -⟩
      cases h
  · rw [unwrap_some, ok_bind, index_eq_ok_iff.mpr (getElem?_portTimes data (firstPort_lt hfirst)),
      ok_bind]
    constructor
    · intro h
      cases h
      exact ⟨rfl, rfl⟩
    · rintro ⟨h, rfl⟩
      cases h
      rfl

lemma size_le_of_latch {slave : Slave} {data : List UInt8} {latched : DcContext × ℕ}
    (h : latch slave data = .ok latched) : DcRecieveTime.size ≤ data.length := by
  obtain ⟨_, -, h⟩ := bind_eq_ok.mp h
  obtain ⟨_, -, h⟩ := bind_eq_ok.mp h
  obtain ⟨_, -, h⟩ := bind_eq_ok.mp h
  obtain ⟨_, hget, -⟩ := bind_eq_ok.mp h
  have hfits : (32 * 3 + 31) / 8 < data.length := (Field.get_eq_ok_iff.mp hget).1
  rw [DcRecieveTime.size]
  omega

/-- Only the delay is measured. -/
lemma measureDelay_eq_ok {network : Network} {pos : ℕ} {slave : Slave} {dc dc' : DcContext}
    {port : ℕ} (h : measureDelay network pos slave dc port = .ok dc') :
    ∃ delay, dc' = { dc with delay := delay } := by
  obtain ⟨_, -, h⟩ := bind_eq_ok.mp h
  obtain ⟨⟨parentPos, parentPort⟩, -, h⟩ := bind_eq_ok.mp h
  obtain ⟨_, -, h⟩ := bind_eq_ok.mp h
  obtain ⟨_, -, h⟩ := bind_eq_ok.mp h
  obtain ⟨_, -, h⟩ := bind_eq_ok.mp h
  obtain ⟨_, -, h⟩ := bind_eq_ok.mp h
  obtain ⟨_, -, h⟩ := bind_eq_ok.mp h
  obtain ⟨delay, -, heq⟩ := bind_eq_ok.mp h
  cases heq
  exact ⟨_, rfl⟩

/-! ## Averages -/

/-- An average of two numbers has no more bits than they have. -/
lemma average_of_lt {bits value measured : ℕ} (hvalue : value < 2 ^ bits)
    (hmeasured : measured < 2 ^ bits) :
    average bits value measured = .ok (HalfAverage.next value measured) := by
  unfold average HalfAverage.next
  split
  · rfl
  · exact addUpTo_eq_ok_iff.mpr ⟨by omega, rfl⟩

/-! ## The latest time -/

/-- The largest value of a function on a list, as the loop of the source computes it. -/
lemma foldl_max_spec {α : Type} (f : α → UInt64) (items : List α) (time : UInt64) :
    (time.toNat ≤ (items.foldl (fun time item => max time (f item)) time).toNat ∧
      ∀ item ∈ items, (f item).toNat ≤
        (items.foldl (fun time item => max time (f item)) time).toNat) ∧
      (items.foldl (fun time item => max time (f item)) time = time ∨
        ∃ item ∈ items, items.foldl (fun time item => max time (f item)) time = f item) := by
  induction items generalizing time with
  | nil => simp
  | cons item items ih =>
      rw [List.foldl_cons]
      obtain ⟨⟨hle, hitems⟩, hsome⟩ := ih (max time (f item))
      have hmax : time.toNat ≤ (max time (f item)).toNat ∧
          (f item).toNat ≤ (max time (f item)).toNat ∧
          (max time (f item) = time ∨ max time (f item) = f item) := by
        rcases UInt64.le_total time (f item) with h | h
        · have heq : max time (f item) = f item := if_pos h
          rw [heq]
          exact ⟨UInt64.le_iff_toNat_le.mp h, Nat.le_refl _, .inr rfl⟩
        · by_cases h' : time ≤ f item
          · have heq : max time (f item) = f item := if_pos h'
            rw [heq]
            exact ⟨UInt64.le_iff_toNat_le.mp h', Nat.le_refl _, .inr rfl⟩
          · have heq : max time (f item) = time := if_neg h'
            rw [heq]
            exact ⟨Nat.le_refl _, UInt64.le_iff_toNat_le.mp h, .inl rfl⟩
      refine ⟨⟨hmax.1.trans hle, ?_⟩, ?_⟩
      · rw [List.forall_mem_cons]
        exact ⟨hmax.2.1.trans hle, hitems⟩
      · rcases hsome with heq | ⟨item', hmem, heq⟩
        · rcases hmax.2.2 with htime | hitem
          · exact .inl (heq.trans htime)
          · exact .inr ⟨item, List.mem_cons_self, heq.trans hitem⟩
        · exact .inr ⟨item', List.mem_cons_of_mem _ hmem, heq⟩

/-- **The latest time** is that of a slave, and none of a slave is later. -/
lemma maxTime_spec {network : Network} (hfilled : network.Filled) :
    (∀ i slave, network.slaveAt i = some slave →
      slave.dcContext.latchedLocalSysTime.toNat ≤ (maxTime network).toNat) ∧
    (maxTime network = 0 ∨ ∃ i slave, network.slaveAt i = some slave ∧
      maxTime network = slave.dcContext.latchedLocalSysTime) := by
  obtain ⟨⟨-, hle⟩, hsome⟩ := foldl_max_spec (fun slave => slave.dcContext.latchedLocalSysTime)
    (network.slaves.filterMap Prod.fst) 0
  refine ⟨fun i slave hslave => ?_, ?_⟩
  · rw [← hfilled.getElem?_slaves] at hslave
    exact hle slave (List.mem_of_getElem? hslave)
  · refine hsome.imp id ?_
    rintro ⟨slave, hmem, heq⟩
    obtain ⟨i, hslave⟩ := List.mem_iff_getElem?.mp hmem
    rw [hfilled.getElem?_slaves] at hslave
    exact ⟨i, slave, hslave, heq⟩

/-! ## The end of a round -/

/-- The clock data with a new offset. -/
def withOffset (maxTime : UInt64) (dc : DcContext) : DcContext :=
  let measured := maxTime.toNat - dc.latchedLocalSysTime.toNat
  { dc with offset := .ofNat (HalfAverage.next dc.offset.toNat measured) }

lemma measureOffset_of_le {maxTime : UInt64} {slave : Slave} (config : SlaveConfig)
    (hle : slave.dcContext.latchedLocalSysTime.toNat ≤ maxTime.toNat) :
    measureOffset maxTime (slave, config) =
      .ok ({ slave with dcContext := withOffset maxTime slave.dcContext }, config) := by
  have hmax := maxTime.toNat_lt
  have haverage : average 64 slave.dcContext.offset.toNat
      (maxTime.toNat - slave.dcContext.latchedLocalSysTime.toNat) = .ok _ :=
    average_of_lt slave.dcContext.offset.toNat_lt (by omega)
  rw [measureOffset, sub_of_le hle, ok_bind, haverage, ok_bind]
  rfl

namespace OnNetwork

/-- The state behind a round. -/
def behindRound (dc : OnNetwork) (count : ℕ) : State :=
  if count + 1 < countMax then .requestToLatch (count + 1)
  else match dc.task.firstDcSlave with
    | some first => .setOffset first
    | none => .complete

/-- **The end of a round** does not fail, and averages the offsets. -/
lemma endRound_eq {dc : OnNetwork} (hfilled : dc.network.Filled) (count : ℕ) :
    ∃ network, dc.endRound count =
        .ok ({ dc with network := network }.goTo (dc.behindRound count)) ∧
      network.pushCount = dc.network.pushCount ∧
      ∀ i, network.slaveAt i = (dc.network.slaveAt i).map fun slave =>
        { slave with dcContext := withOffset (maxTime dc.network) slave.dcContext } := by
  have hmeasure : ∀ slave config, (some slave, config) ∈ dc.network.slaves →
      measureOffset (maxTime dc.network) (slave, config) =
        .ok ({ slave with dcContext := withOffset (maxTime dc.network) slave.dcContext },
          config) := by
    intro slave config hmem
    obtain ⟨i, hslot⟩ := List.mem_iff_getElem?.mp hmem
    exact measureOffset_of_le config
      ((maxTime_spec hfilled).1 i slave (Network.slaveAt_eq_some_iff.mpr ⟨config, hslot⟩))
  obtain ⟨network, hnetwork⟩ := Network.exists_mapSlaves_iff.mpr fun slave config hmem =>
    ⟨_, hmeasure slave config hmem⟩
  refine ⟨network, ?_, ?_, fun i => ?_⟩
  · rw [endRound, hnetwork, ok_bind, behindRound]
    split
    · rfl
    · rcases hfirst : dc.task.firstDcSlave with _ | first <;> simp only [hfirst]
  · obtain ⟨slaves, -, heq⟩ := bind_eq_ok.mp hnetwork
    cases heq
    rfl
  · rw [Network.slaveAt, Network.slaveAt]
    rcases Network.mapSlaves_eq_ok hnetwork i with ⟨slave, config, slot', hslot, hf, hslot'⟩ |
      ⟨hnone, hsame⟩
    · rw [hmeasure slave config (List.mem_of_getElem? hslot)] at hf
      cases hf
      rw [hslot, hslot']
      rfl
    · rw [hsame]
      rcases hslot : dc.network.slaves[i]? with _ | ⟨_ | slave, config⟩
      · rfl
      · rfl
      · exact absurd hslot (hnone slave config)

/-- The network with new clock data of a slave. -/
def withClock (dc : OnNetwork) (pos : ℕ) (context : DcContext) : OnNetwork :=
  { dc with network := dc.network.modifySlave pos fun slave => { slave with dcContext := context } }

/-- The task behind the receive times of the slave at a position. -/
def afterSlave (dc : OnNetwork) (count pos : ℕ) : Exec OnNetwork :=
  if pos + 1 < dc.network.numSlaves then .ok (dc.goTo (.calculateDelay count (pos + 1)))
  else dc.endRound count

/-- The clock data of a slave behind its receive times. -/
def clockBehind (dc : OnNetwork) (pos : ℕ) (slave : Slave) (latched : DcContext × ℕ) :
    Exec DcContext :=
  if dc.task.firstDcSlave.any fun first => first < pos then
    measureDelay dc.network pos slave latched.1 latched.2
  else .ok latched.1

/-- The arm in four steps. -/
lemma processCalculateDelay_eq (dc : OnNetwork) (count pos : ℕ) (data : List UInt8) :
    dc.processCalculateDelay count pos data =
      slaveOf dc.network pos >>= fun slave => latch slave data >>= fun latched =>
        dc.clockBehind pos slave latched >>= fun context => addUpTo 16 pos 1 >>= fun _ =>
          (dc.withClock pos context).afterSlave count pos := by
  have hrest : ∀ context : DcContext,
      (addUpTo 16 pos 1 >>= fun next =>
        if next < (dc.withClock pos context).network.numSlaves then
          .ok ((dc.withClock pos context).goTo (.calculateDelay count next))
        else (dc.withClock pos context).endRound count) =
      addUpTo 16 pos 1 >>= fun _ => (dc.withClock pos context).afterSlave count pos := by
    intro context
    by_cases hpos : pos + 1 < 2 ^ 16
    · rw [addUpTo_eq_ok_iff.mpr ⟨hpos, rfl⟩]
      rfl
    · have hadd : addUpTo 16 pos 1 = .error .arithmetic := if_neg hpos
      rw [hadd]
      rfl
  unfold processCalculateDelay clockBehind
  refine congrArg _ (funext fun slave => congrArg _ (funext fun latched => ?_))
  simp only [← hrest]
  split
  · rfl
  · rfl

lemma processCalculateDelay_of_clock {dc : OnNetwork} {pos : ℕ} {slave : Slave}
    {data : List UInt8} {latched : DcContext × ℕ} {context : DcContext}
    (hslave : slaveOf dc.network pos = .ok slave) (hlatched : latch slave data = .ok latched)
    (hclock : dc.clockBehind pos slave latched = .ok context) (hpos : pos + 1 < 2 ^ 16)
    (count : ℕ) :
    dc.processCalculateDelay count pos data = (dc.withClock pos context).afterSlave count pos := by
  rw [processCalculateDelay_eq, hslave, ok_bind, hlatched, ok_bind, hclock, ok_bind,
    addUpTo_eq_ok_iff.mpr ⟨hpos, rfl⟩, ok_bind]

/-- **The receive times of a slave** change its clock data. -/
lemma clock_of_processCalculateDelay {dc dc' : OnNetwork} {count pos : ℕ} {data : List UInt8}
    (h : dc.processCalculateDelay count pos data = .ok dc') :
    ∃ slave latched context, slaveOf dc.network pos = .ok slave ∧
      latch slave data = .ok latched ∧ dc.clockBehind pos slave latched = .ok context ∧
      pos + 1 < 2 ^ 16 ∧ (dc.withClock pos context).afterSlave count pos = .ok dc' := by
  rw [processCalculateDelay_eq] at h
  obtain ⟨slave, hslave, h⟩ := bind_eq_ok.mp h
  obtain ⟨latched, hlatched, h⟩ := bind_eq_ok.mp h
  obtain ⟨context, hclock, h⟩ := bind_eq_ok.mp h
  obtain ⟨next, hadd, h⟩ := bind_eq_ok.mp h
  exact ⟨slave, latched, context, hslave, hlatched, hclock, (addUpTo_eq_ok_iff.mp hadd).1, h⟩

/-- Behind its receive times a slave has other receive times and another delay. -/
lemma clockBehind_eq_ok {dc : OnNetwork} {pos : ℕ} {slave : Slave} {latched : DcContext × ℕ}
    {context : DcContext} (h : dc.clockBehind pos slave latched = .ok context) :
    ∃ delay, context = { latched.1 with delay := delay } := by
  unfold clockBehind at h
  split at h
  · exact measureDelay_eq_ok h
  · cases h
    exact ⟨_, rfl⟩

end OnNetwork

end DcInitTask

end EtherCat
