import EtherCat.Master.Mailbox
import EtherCat.Slave.EntryBits

/-!
# The search for a full mailbox

An FMMU of each slave with a mailbox maps the status of the send mailbox into the process data image.
In every cycle the master looks there for a slave with a full mailbox, to read it.  What the loop has
found is forgotten after it (`findsFull_iff`).
-/

namespace EtherCat

open Rust Rust.Exec BitField CyclicTask

/-- The mailbox state FMMU of the slave shows a full mailbox in the image. -/
def Slave.ShowsFull (slave : Slave) (logicalAddressOffset : UInt32) (image : List UInt8) : Prop :=
  ∃ fmmuConfig, slave.fmmu.get 2 = some fmmuConfig ∧
    fmmuConfig.logicalBits.imageBit logicalAddressOffset image
      (fmmuConfig.logicalBits.startBit.toNat + 3) = true

/-- The slave at a position shows a full mailbox. -/
def Network.ShowsFullAt (network : Network) (logicalAddressOffset : UInt32) (image : List UInt8)
    (pos : ℕ) : Prop :=
  ∃ slave, (network.slaves.filterMap Prod.fst)[pos]? = some slave ∧
    slave.ShowsFull logicalAddressOffset image

namespace MailboxManager

/-- **What the search should do**: it finds a slave with a full mailbox if there is one, and the task
starts to read it as soon as it is free. -/
structure FindsFull (manager : MailboxManager) (network : Network) (logicalAddressOffset : UInt32)
    (image : List UInt8) : Prop where
  found : (∃ pos, network.ShowsFullAt logicalAddressOffset image pos) →
    ∃ pos, network.ShowsFullAt logicalAddressOffset image pos ∧
      manager.slaveWithMailbox = some (.slavePosition (.ofNat pos))
  noneFound : (¬ ∃ pos, network.ShowsFullAt logicalAddressOffset image pos) →
    manager.slaveWithMailbox = none
  reads : (∃ pos, network.ShowsFullAt logicalAddressOffset image pos) → isBusy manager.task = false →
    ∃ task, manager.startRead network = .ok task ∧ isBusy task = true

/-- **When the search does what it should**: if and only if there is nothing to find. -/
theorem findsFull_iff {manager manager' : MailboxManager} {network : Network}
    {logicalAddressOffset : UInt32} {image : List UInt8}
    (h : manager.findSlaveWithMailboxFromProcessData network logicalAddressOffset image =
      .ok manager') :
    manager'.FindsFull network logicalAddressOffset image ↔
      ¬ ∃ pos, network.ShowsFullAt logicalAddressOffset image pos := by
  obtain ⟨_, -, h⟩ := bind_eq_ok.mp h
  cases h
  constructor
  · rintro ⟨hfound, -, -⟩ hfull
    obtain ⟨_, -, hnone⟩ := hfound hfull
    cases hnone
  · exact fun hempty => ⟨fun hfull => absurd hfull hempty, fun _ => rfl,
      fun hfull => absurd hfull hempty⟩

/-- A slave whose FMMU maps the status of its send mailbox to the first byte of the image. -/
def oneFullMailbox : Network where
  slaves := [(some { Slave.default with
    info := { SlaveInfo.default with
      sm := #v[some (.mailboxRx ⟨0, 64, 0x1000⟩), some (.mailboxTx ⟨1, 64, 0x1080⟩), none, none] }
    fmmu := #v[none, none, some ⟨⟨some 0, 0, 8⟩, 0x080D, .input⟩] }, .default)]
  pushCount := 1

/-- The slave with a full mailbox is forgotten. -/
theorem fullMailbox_isForgotten : ∃ manager,
    (new .new).findSlaveWithMailboxFromProcessData oneFullMailbox 0 [8] = .ok manager ∧
      oneFullMailbox.ShowsFullAt 0 [8] 0 ∧ manager.slaveWithMailbox = none ∧
      ¬ manager.FindsFull oneFullMailbox 0 [8] := by
  have hfull : oneFullMailbox.ShowsFullAt 0 [8] 0 := ⟨_, rfl, _, rfl, by decide +kernel⟩
  refine ⟨new .new, by decide +kernel, hfull, rfl, fun h => ?_⟩
  obtain ⟨_, -, hnone⟩ := h.found ⟨0, hfull⟩
  cases hnone

/-- With an empty mailbox there is nothing to forget. -/
theorem emptyMailbox_findsFull : (new .new).FindsFull oneFullMailbox 0 [0] := by
  have hfind : (new .new).findSlaveWithMailboxFromProcessData oneFullMailbox 0 [0] =
      .ok (new .new) := by decide +kernel
  refine (findsFull_iff hfind).mpr ?_
  rintro ⟨pos, slave, hget, fmmuConfig, hfmmu, hset⟩
  cases pos with
  | zero =>
      cases hget
      cases hfmmu
      revert hset
      decide +kernel
  | succ pos => cases hget

end MailboxManager

end EtherCat
