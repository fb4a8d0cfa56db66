import EtherCat.Slave.Network

/-!
# Networks that are filled from the front

The slots with a slave are those below the number of slaves, so that every address finds what it
should: a position the slave in its slot, and a station address the slave one slot before.
-/

namespace EtherCat

open Rust Rust.Exec

namespace Network

/-- The slave in a slot with its configuration. -/
def slotAt (net : Network) (i : ℕ) : Option (Slave × SlaveConfig) :=
  net.slaves[i]?.bind fun slot => slot.1.map fun slave => (slave, slot.2)

/-- The items of `slaves()`. -/
def slavesInOrder (net : Network) : List (Slave × SlaveConfig) :=
  net.slaves.filterMap fun slot => slot.1.map fun slave => (slave, slot.2)

/-- The slots with a slave are those below the number of slaves, which has 16 bits. -/
structure Filled (net : Network) : Prop where
  isSome_iff : ∀ i, (net.slaveAt i).isSome ↔ i < net.pushCount
  small : net.pushCount < 2 ^ 16

lemma slaveAt_eq_map_slotAt (net : Network) (i : ℕ) :
    net.slaveAt i = (net.slotAt i).map Prod.fst := by
  rw [slaveAt, slotAt]
  rcases net.slaves[i]? with _ | ⟨_ | slave, config⟩ <;> rfl

lemma slotAt_isSome (net : Network) (i : ℕ) : (net.slotAt i).isSome = (net.slaveAt i).isSome := by
  rw [slaveAt_eq_map_slotAt, Option.isSome_map]

lemma slotAt_eq_some_iff {net : Network} {i : ℕ} {slave : Slave} {config : SlaveConfig} :
    net.slotAt i = some (slave, config) ↔ net.slaves[i]? = some (some slave, config) := by
  rw [slotAt]
  rcases net.slaves[i]? with _ | ⟨_ | slave', config'⟩ <;> simp

namespace Filled

variable {net net' : Network}

lemma slotAt_isSome_iff (h : net.Filled) (i : ℕ) : (net.slotAt i).isSome ↔ i < net.pushCount := by
  rw [slotAt_isSome]
  exact h.isSome_iff i

lemma slotAt_of_le (h : net.Filled) {i : ℕ} (hi : net.pushCount ≤ i) : net.slotAt i = none := by
  rw [← Option.not_isSome_iff_eq_none, h.slotAt_isSome_iff]
  omega

lemma pushCount_le_length (h : net.Filled) : net.pushCount ≤ net.slaves.length := by
  by_contra hlt
  have hsome := (h.isSome_iff net.slaves.length).mpr (by omega)
  rw [slaveAt, List.getElem?_eq_none le_rfl] at hsome
  cases hsome

/-- **What an address finds.** -/
lemma slave_eq (h : net.Filled) (addr : SlaveAddress) :
    net.slave addr = .ok ((position addr).bind net.slotAt) := by
  rw [Network.slave]
  rcases position addr with _ | i
  · rfl
  · dsimp only [Option.bind_some]
    split
    · next hi =>
        obtain ⟨⟨slave, config⟩, hslot⟩ :=
          Option.isSome_iff_exists.mp ((h.slotAt_isSome_iff i).mpr hi)
        rw [hslot, index_eq_ok_iff.mpr (slotAt_eq_some_iff.mp hslot)]
        rfl
    · next hi =>
        rw [h.slotAt_of_le (Nat.le_of_not_lt hi)]

/-- The slaves in order are those in the slots. -/
lemma getElem?_slavesInOrder (h : net.Filled) (i : ℕ) : net.slavesInOrder[i]? = net.slotAt i := by
  have hslots : ∀ (slots : List (Option Slave × SlaveConfig)) (n i : ℕ),
      (∀ i : ℕ, (slots[i]?.bind Prod.fst).isSome ↔ i < n) →
      (slots.filterMap fun slot => slot.1.map fun slave => (slave, slot.2))[i]? =
        slots[i]?.bind fun slot => slot.1.map fun slave => (slave, slot.2) := by
    intro slots
    induction slots with
    | nil => simp
    | cons slot slots ih =>
        intro n i hfilled
        have htail : ∀ i : ℕ, (slots[i]?.bind Prod.fst).isSome ↔ i < n - 1 := fun i => by
          have hi := hfilled (i + 1)
          rw [List.getElem?_cons_succ] at hi
          rw [hi]
          omega
        obtain ⟨_ | slave, config⟩ := slot
        · have hn : n = 0 := by
            have hhead := hfilled 0
            simp only [List.getElem?_cons_zero, Option.bind_some, Option.isSome_none,
              Bool.false_eq_true, false_iff] at hhead
            omega
          -- Behind an empty slot all slots are empty.
          have hempty : ∀ j : ℕ, (slots[j]?.bind fun slot =>
              slot.1.map fun slave => (slave, slot.2)) = none := fun j => by
            have hj := htail j
            rw [hn] at hj
            rcases hslot : slots[j]? with _ | ⟨_ | slave, config⟩
            · rfl
            · rfl
            · rw [hslot] at hj
              simp at hj
          rw [List.filterMap_cons_none (by rfl), ih (n - 1) i htail, hempty]
          rcases i with _ | j
          · rfl
          · rw [List.getElem?_cons_succ, hempty]
        · rw [List.filterMap_cons_some (by rfl)]
          rcases i with _ | j
          · rfl
          · rw [List.getElem?_cons_succ, List.getElem?_cons_succ, ih (n - 1) j htail]
  exact hslots net.slaves net.pushCount i h.isSome_iff

lemma length_slavesInOrder (h : net.Filled) : net.slavesInOrder.length = net.pushCount := by
  have hiff : ∀ i, i < net.slavesInOrder.length ↔ i < net.pushCount := fun i => by
    rw [← h.slotAt_isSome_iff, ← h.getElem?_slavesInOrder, isSome_getElem?]
  have hlt := hiff net.pushCount
  have hlt' := hiff net.slavesInOrder.length
  omega

/-- And without their configurations. -/
lemma getElem?_slaves (h : net.Filled) (i : ℕ) :
    (net.slaves.filterMap Prod.fst)[i]? = net.slaveAt i := by
  have hmap : net.slaves.filterMap Prod.fst = net.slavesInOrder.map Prod.fst := by
    rw [slavesInOrder, List.map_filterMap]
    congr 1
    funext slot
    rw [Option.map_map]
    exact Option.map_id'.symm
  rw [hmap, List.getElem?_map, h.getElem?_slavesInOrder, slaveAt_eq_map_slotAt]

end Filled

/-! ## What fills a network -/

lemma filled_clear (net : Network) : net.clear.Filled := by
  refine ⟨fun i => ?_, Nat.two_pow_pos 16⟩
  rw [slaveAt, clear, List.getElem?_map]
  rcases net.slaves[i]? with _ | slot <;> simp

/-- A slave is pushed unless the slots are full. -/
lemma pushSlave_eq_ok {net net' : Network} {slave : Slave} {pushed : Except Slave Unit}
    (h : net.pushSlave slave = .ok (pushed, net')) :
    (net.slaves.length ≤ net.pushCount ∧ pushed = .error slave ∧ net' = net) ∨
      (net.pushCount < net.slaves.length ∧ pushed = .ok () ∧ net.pushCount + 1 < 2 ^ 16 ∧
        net' = ⟨net.slaves.modify net.pushCount fun buf => (some slave, buf.2),
          net.pushCount + 1⟩) := by
  unfold pushSlave at h
  split at h
  · next hfull =>
      cases h
      exact .inl ⟨hfull, rfl, rfl⟩
  · next hfull =>
      obtain ⟨pushCount, hadd, heq⟩ := bind_eq_ok.mp h
      obtain ⟨hlt, rfl⟩ := addUpTo_eq_ok_iff.mp hadd
      cases heq
      exact .inr ⟨Nat.lt_of_not_le hfull, rfl, hlt, rfl⟩

/-- The pushed slave is in the next slot, and the others stay. -/
lemma slotAt_pushed {net : Network} (slave : Slave) (hlt : net.pushCount < net.slaves.length)
    (i : ℕ) :
    slotAt ⟨net.slaves.modify net.pushCount fun buf => (some slave, buf.2), net.pushCount + 1⟩ i =
      if net.pushCount = i then some (slave, net.slaves[net.pushCount].2) else net.slotAt i := by
  simp only [slotAt, List.getElem?_modify]
  split
  · next heq =>
      subst heq
      rw [List.getElem?_eq_getElem hlt]
      rfl
  · rcases net.slaves[i]? with _ | slot <;> rfl

lemma Filled.pushed {net : Network} (h : net.Filled) (slave : Slave)
    (hlt : net.pushCount < net.slaves.length) (hsmall : net.pushCount + 1 < 2 ^ 16) :
    Filled ⟨net.slaves.modify net.pushCount fun buf => (some slave, buf.2),
      net.pushCount + 1⟩ := by
  refine ⟨fun i => ?_, hsmall⟩
  rw [← slotAt_isSome, slotAt_pushed slave hlt]
  split
  · next heq =>
      subst heq
      simp
  · next hne =>
      rw [h.slotAt_isSome_iff]
      dsimp only
      omega

end Network

end EtherCat
