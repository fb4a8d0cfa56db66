import EtherCat.Slave.Config

/-!
# The slaves of a segment

A buffer of slots, filled from the front while the segment is scanned.  The configurations are
the user's and stay when the slaves are cleared.
-/

namespace EtherCat

open Rust Rust.Exec

/-- The slaves in the order of the network, each with its configuration. -/
structure Network where
  slaves : List (Option Slave × SlaveConfig)
  pushCount : ℕ
  deriving DecidableEq, Repr

namespace Network

/-- A network without slaves. -/
def new (slaveBuf : List (Option Slave × SlaveConfig)) : Network where
  slaves := slaveBuf
  pushCount := 0

/-- The slaves are forgotten, and their configurations kept. -/
def clear (net : Network) : Network where
  slaves := net.slaves.map fun buf => (none, buf.2)
  pushCount := 0

/-- A slave behind the others, if there is a slot for it. -/
def pushSlave (net : Network) (slave : Slave) : Exec (Except Slave Unit × Network) :=
  if net.slaves.length ≤ net.pushCount then
    .ok (.error slave, net)
  else do
    let pushCount ← addUpTo 16 net.pushCount 1
    .ok (.ok (), { slaves := net.slaves.modify net.pushCount fun buf => (some slave, buf.2)
                   pushCount := pushCount })

/-- The number of slaves. -/
def numSlaves (net : Network) : ℕ := net.pushCount

/-- The slot an address names, if it names one. -/
def position : SlaveAddress → Option ℕ
  | .slavePosition n => some n.toNat
  | .stationAddress n => if n = 0 then none else some (n.toNat - 1)

/-- The slave that an address names, with its configuration. -/
def slave (net : Network) (addr : SlaveAddress) : Exec (Option (Slave × SlaveConfig)) :=
  match position addr with
  | none => .ok none
  | some addr =>
    if addr < net.pushCount then do
      let (slave, config) ← index net.slaves addr
      .ok (some (← unwrap slave, config))
    else
      .ok none

/-- The network after a change of a slave through a reference to it. -/
def modifySlave (net : Network) (position : ℕ) (f : Slave → Slave) : Network :=
  { net with slaves := net.slaves.modify position fun buf => (buf.1.map f, buf.2) }

/-- The network after a change of all slaves through references to them. -/
def modifySlaves (net : Network) (f : Slave → Slave) : Network :=
  { net with slaves := net.slaves.map fun buf => (buf.1.map f, buf.2) }

/-- The slave in a slot. -/
def slaveAt (net : Network) (i : ℕ) : Option Slave := net.slaves[i]?.bind Prod.fst

/-- The parent port noted for the slave in a slot. -/
def parentPort (net : Network) (i : ℕ) : Option (ℕ × ℕ) :=
  (net.slaveAt i).bind fun slave => slave.dcContext.parentPort

/-- The network after a change of every slave, in order. -/
def mapSlaves (net : Network) (f : Slave × SlaveConfig → Exec (Slave × SlaveConfig)) :
    Exec Network := do
  let slaves ← net.slaves.mapM fun
    | (some slave, config) => do
      let (slave, config) ← f (slave, config)
      .ok (some slave, config)
    | (none, config) => .ok (none, config)
  .ok { net with slaves := slaves }

lemma slaveAt_eq_some_iff {net : Network} {i : ℕ} {slave : Slave} :
    net.slaveAt i = some slave ↔ ∃ config, net.slaves[i]? = some (some slave, config) := by
  unfold slaveAt
  rcases net.slaves[i]? with _ | ⟨_ | slave', config⟩ <;> simp

lemma lt_length_of_slaveAt_isSome {net : Network} {i : ℕ} (h : (net.slaveAt i).isSome) :
    i < net.slaves.length := by
  by_contra hge
  rw [slaveAt, List.getElem?_eq_none (Nat.le_of_not_lt hge)] at h
  cases h

@[simp] lemma slaveAt_modifySlave (net : Network) (p i : ℕ) (f : Slave → Slave) :
    (net.modifySlave p f).slaveAt i = if p = i then (net.slaveAt i).map f else net.slaveAt i := by
  simp only [slaveAt, modifySlave, List.getElem?_modify]
  rcases net.slaves[i]? with _ | ⟨_ | slave, config⟩
  · simp
  · split <;> rfl
  · split <;> rfl

@[simp] lemma slaveAt_modifySlaves (net : Network) (i : ℕ) (f : Slave → Slave) :
    (net.modifySlaves f).slaveAt i = (net.slaveAt i).map f := by
  simp only [slaveAt, modifySlaves, List.getElem?_map]
  rcases net.slaves[i]? with _ | ⟨_ | slave, config⟩ <;> rfl

/-- Below the number of slaves a position names the slave in its slot. -/
lemma slave_slavePosition {net : Network} {i : ℕ} {slave : Slave} (hlt : i < net.pushCount)
    (hsmall : i < 2 ^ 16) (h : net.slaveAt i = some slave) :
    ∃ config, net.slave (.slavePosition (UInt16.ofNat i)) = .ok (some (slave, config)) := by
  obtain ⟨config, hslot⟩ := slaveAt_eq_some_iff.mp h
  have hi : (UInt16.ofNat i).toNat = i := by
    rw [UInt16.toNat_ofNat']
    omega
  refine ⟨config, ?_⟩
  simp [Network.slave, position, hi, hlt, index_eq_ok_iff.mpr hslot]

/-- If the slots below `n` are those with a slave, there are `n` slaves. -/
lemma length_filterMap_of_forall {slots : List (Option Slave × SlaveConfig)} {n : ℕ}
    (h : ∀ i : ℕ, (slots[i]?.bind Prod.fst).isSome ↔ i < n) :
    (slots.filterMap Prod.fst).length = n := by
  induction slots generalizing n with
  | nil =>
      have hn := h 0
      simp only [List.getElem?_nil, Option.bind_none, Option.isSome_none, Bool.false_eq_true,
        false_iff] at hn
      simp only [List.filterMap_nil, List.length_nil]
      omega
  | cons slot slots ih =>
      have htail : ∀ i : ℕ, (slots[i]?.bind Prod.fst).isSome ↔ i < n - 1 := fun i => by
        have hi := h (i + 1)
        rw [List.getElem?_cons_succ] at hi
        rw [hi]
        omega
      have hhead := h 0
      obtain ⟨_ | slave, config⟩ := slot
      · simp only [List.getElem?_cons_zero, Option.bind_some, Option.isSome_none,
          Bool.false_eq_true, false_iff] at hhead
        simp only [List.filterMap_cons, ih htail]
        omega
      · simp only [List.getElem?_cons_zero, Option.bind_some, Option.isSome_some,
          true_iff] at hhead
        simp only [List.filterMap_cons, List.length_cons, ih htail]
        omega

/-- Each slave by itself; the empty slots stay. -/
lemma mapSlaves_eq_ok {net net' : Network} {f : Slave × SlaveConfig → Exec (Slave × SlaveConfig)}
    (h : net.mapSlaves f = .ok net') (position : ℕ) :
    (∃ slave config slot', net.slaves[position]? = some (some slave, config) ∧
        f (slave, config) = .ok slot' ∧
        net'.slaves[position]? = some (some slot'.1, slot'.2)) ∨
      (∀ slave config, net.slaves[position]? ≠ some (some slave, config)) ∧
        net'.slaves[position]? = net.slaves[position]? := by
  obtain ⟨slaves, hslaves, heq⟩ := bind_eq_ok.mp h
  cases heq
  obtain ⟨hlength, hget⟩ := List.forall₂_iff_get.mp (mapM_eq_ok_iff.mp hslaves)
  rcases hslot : net.slaves[position]? with _ | ⟨_ | slave, config⟩
  · right
    refine ⟨by simp, ?_⟩
    rw [List.getElem?_eq_none_iff] at hslot ⊢
    exact hlength ▸ hslot
  · right
    obtain ⟨hlt, hval⟩ := List.getElem?_eq_some_iff.mp hslot
    have h := hget position hlt (hlength ▸ hlt)
    simp only [List.get_eq_getElem, hval] at h
    refine ⟨by simp, ?_⟩
    rw [List.getElem?_eq_getElem (hlength ▸ hlt)]
    exact congrArg some (Except.ok.inj h).symm
  · left
    obtain ⟨hlt, hval⟩ := List.getElem?_eq_some_iff.mp hslot
    have h := hget position hlt (hlength ▸ hlt)
    simp only [List.get_eq_getElem, hval] at h
    obtain ⟨slot', hf, heq⟩ := bind_eq_ok.mp h
    refine ⟨slave, config, slot', rfl, hf, ?_⟩
    rw [List.getElem?_eq_getElem (hlength ▸ hlt)]
    exact congrArg some (Except.ok.inj heq).symm

/-- It returns if every slave does. -/
lemma exists_mapSlaves_iff {net : Network}
    {f : Slave × SlaveConfig → Exec (Slave × SlaveConfig)} :
    (∃ net', net.mapSlaves f = .ok net') ↔
      ∀ slave config, (some slave, config) ∈ net.slaves →
        ∃ slot', f (slave, config) = .ok slot' := by
  have hloop : (∃ net', net.mapSlaves f = .ok net') ↔
      ∃ slots, net.slaves.mapM (fun
        | (some slave, config) => do
          let (slave, config) ← f (slave, config)
          .ok (some slave, config)
        | (none, config) => .ok (none, config)) = .ok slots := by
    constructor
    · rintro ⟨net', h⟩
      obtain ⟨slots, hslots, -⟩ := bind_eq_ok.mp h
      exact ⟨slots, hslots⟩
    · rintro ⟨slots, hslots⟩
      exact ⟨_, bind_eq_ok.mpr ⟨slots, hslots, rfl⟩⟩
  rw [hloop, exists_mapM_eq_ok_iff]
  constructor
  · intro h slave config hmem
    obtain ⟨slot, hslot⟩ := h _ hmem
    obtain ⟨slot', hf, -⟩ := bind_eq_ok.mp hslot
    exact ⟨slot', hf⟩
  · rintro h ⟨slave | slave, config⟩ hmem
    · exact ⟨_, rfl⟩
    · obtain ⟨slot', hf⟩ := h slave config hmem
      exact ⟨_, bind_eq_ok.mpr ⟨slot', hf, rfl⟩⟩

end Network

/-- The slaves of a list of slots. -/
def slavesOf (slots : List (Option Slave × SlaveConfig)) : List Slave := slots.filterMap Prod.fst

lemma mem_slavesOf {slots : List (Option Slave × SlaveConfig)} {slave : Slave} :
    slave ∈ slavesOf slots ↔ ∃ config, (some slave, config) ∈ slots := by
  simp [slavesOf, List.mem_filterMap]

end EtherCat
