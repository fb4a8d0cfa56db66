import EtherCat.Foundation.Layout
import EtherCat.Task.SlaveInitialize

/-!
# The memory for process data

`set_process_data_sm_size_offset` takes the memory before the mailboxes or behind them, where there
is more.  It computes the last address of a mailbox from the first one behind it, which does not fit
into 16 bits where a mailbox ends with the address space (`allocates_iff`).
-/

namespace EtherCat

open Rust Rust.Exec Layout

/-- The memory of a mailbox. -/
def SyncManager.area (sm : SyncManager) : Range where
  start := sm.startAddress.toNat
  length := sm.size.toNat

/-- The memory for process data. -/
def SlaveInfo.processDataRegion (info : SlaveInfo) : Range where
  start := (info.pdoStartAddress.getD 0).toNat
  length := info.pdoRamSize.toNat

/-- The process RAM. -/
def SlaveInfo.processRam (info : SlaveInfo) : Range where
  start := 0x1000
  length := 1024 * info.ramSizeKb.toNat

/-- The sync managers 0 and 1 are those of the mailboxes. -/
structure SlaveInfo.HasMailboxes (info : SlaveInfo) (rx tx : SyncManager) : Prop where
  rx : info.sm[0] = some (.mailboxRx rx)
  tx : info.sm[1] = some (.mailboxTx tx)

namespace SlaveInitTask

variable {info info' : SlaveInfo} {rx tx : SyncManager}

/-- Neither mailbox reaches the end of the 64 KiB. -/
def EndsBelow (rx tx : SyncManager) : Prop :=
  rx.area.stop < 2 ^ 16 ∧ tx.area.stop < 2 ^ 16

instance (rx tx : SyncManager) : Decidable (EndsBelow rx tx) :=
  inferInstanceAs (Decidable (_ ∧ _))

/-- The space before the lower and behind the higher mailbox. -/
def spaceBefore (rx tx : SyncManager) : ℕ := min rx.area.start tx.area.start - 0x1000

/-- The RAM behind the two mailboxes. -/
def spaceBehind (info : SlaveInfo) (rx tx : SyncManager) : ℕ :=
  info.processRam.stop - max rx.area.stop tx.area.stop

/-- The larger of the two. -/
def allocated (info : SlaveInfo) (rx tx : SyncManager) : SlaveInfo :=
  if spaceBehind info rx tx < spaceBefore rx tx then
    { info with pdoStartAddress := some 0x1000, pdoRamSize := .ofNat (spaceBefore rx tx) }
  else
    { info with pdoStartAddress := some (.ofNat (max rx.area.stop tx.area.stop)),
                pdoRamSize := .ofNat (spaceBehind info rx tx) }

lemma spaceBefore_eq (rx tx : SyncManager) :
    (if 0x1000 < min rx.startAddress.toNat tx.startAddress.toNat then
      min rx.startAddress.toNat tx.startAddress.toNat - 0x1000 else 0) = spaceBefore rx tx := by
  show _ = min rx.startAddress.toNat tx.startAddress.toNat - 0x1000
  generalize min rx.startAddress.toNat tx.startAddress.toNat = lower
  by_cases h : 0x1000 < lower
  · rw [if_pos h]
  · rw [if_neg h]
    omega

/-- The space behind, from the last addresses. -/
lemma spaceBehind_eq {info : SlaveInfo} {rx tx : SyncManager} (hrx : 1 ≤ rx.area.stop)
    (htx : 1 ≤ tx.area.stop) (hram : 1 ≤ info.ramSizeKb.toNat) :
    (if max (rx.area.stop - 1) (tx.area.stop - 1) < info.ramSizeKb.toNat * 0x0400 - 1 + 0x1000 then
      info.ramSizeKb.toNat * 0x0400 - 1 + 0x1000 - max (rx.area.stop - 1) (tx.area.stop - 1)
      else 0) = spaceBehind info rx tx := by
  show _ = 0x1000 + 1024 * info.ramSizeKb.toNat - max rx.area.stop tx.area.stop
  generalize rx.area.stop = a, tx.area.stop = b, info.ramSizeKb.toNat = ram at hrx htx hram ⊢
  by_cases h : max (a - 1) (b - 1) < ram * 0x0400 - 1 + 0x1000
  · rw [if_pos h]
    omega
  · rw [if_neg h]
    omega

/-- The function returns exactly if none of its `u16` operations leaves the type. -/
lemma setProcessDataSmSizeOffset_eq_ok_iff (h : info.HasMailboxes rx tx) :
    setProcessDataSmSizeOffset info = .ok info' ↔
      EndsBelow rx tx ∧ 1 ≤ rx.area.stop ∧ 1 ≤ tx.area.stop ∧ 1 ≤ info.ramSizeKb.toNat ∧
        info.processRam.stop ≤ 2 ^ 16 ∧ info' = allocated info rx tx := by
  obtain ⟨hrx, htx⟩ := h
  have hrx : index info.sm.toList 0 = .ok (some (.mailboxRx rx)) := by
    rw [index]
    simp [hrx]
  have htx : index info.sm.toList 1 = .ok (some (.mailboxTx tx)) := by
    rw [index]
    simp [htx]
  have hstop (sm : SyncManager) : sm.startAddress.toNat + sm.size.toNat = sm.area.stop := rfl
  have hram : info.processRam.stop = 0x1000 + 1024 * info.ramSizeKb.toNat := rfl
  simp only [setProcessDataSmSizeOffset, hrx, htx, ok_bind, spaceBefore_eq]
  constructor
  · intro h
    obtain ⟨end0, hend0, h⟩ := bind_eq_ok.mp h
    obtain ⟨last0, hlast0, h⟩ := bind_eq_ok.mp h
    obtain ⟨end1, hend1, h⟩ := bind_eq_ok.mp h
    obtain ⟨last1, hlast1, h⟩ := bind_eq_ok.mp h
    obtain ⟨ramSize, hramSize, h⟩ := bind_eq_ok.mp h
    obtain ⟨ramLast, hramLast, h⟩ := bind_eq_ok.mp h
    obtain ⟨endAddress, hendAddress, h⟩ := bind_eq_ok.mp h
    obtain ⟨hlt0, rfl⟩ := addUpTo_eq_ok_iff.mp hend0
    obtain ⟨hpos0, rfl⟩ := sub_eq_ok_iff.mp hlast0
    obtain ⟨hlt1, rfl⟩ := addUpTo_eq_ok_iff.mp hend1
    obtain ⟨hpos1, rfl⟩ := sub_eq_ok_iff.mp hlast1
    obtain ⟨hltRam, rfl⟩ := mulUpTo_eq_ok_iff.mp hramSize
    obtain ⟨hposRam, rfl⟩ := sub_eq_ok_iff.mp hramLast
    obtain ⟨hltEnd, rfl⟩ := addUpTo_eq_ok_iff.mp hendAddress
    have hpos : 1 ≤ info.ramSizeKb.toNat := by omega
    rw [hstop] at hlt0 hlt1 hpos0 hpos1
    rw [hstop, hstop, spaceBehind_eq hpos0 hpos1 hpos] at h
    refine ⟨⟨hlt0, hlt1⟩, hpos0, hpos1, hpos, by omega, ?_⟩
    rw [allocated]
    by_cases hsize : spaceBehind info rx tx < spaceBefore rx tx
    · rw [if_pos hsize] at h ⊢
      cases h
      rfl
    · rw [if_neg hsize] at h ⊢
      obtain ⟨start, hstart, h⟩ := bind_eq_ok.mp h
      obtain ⟨-, rfl⟩ := addUpTo_eq_ok_iff.mp hstart
      have hnext : max (rx.area.stop - 1) (tx.area.stop - 1) + 1 =
          max rx.area.stop tx.area.stop := by omega
      rw [hnext] at h
      cases h
      rfl
  · rintro ⟨⟨hlt0, hlt1⟩, hpos0, hpos1, hpos, hend, heq⟩
    rw [heq]
    have hltRam : info.ramSizeKb.toNat * 0x0400 < 2 ^ 16 := by omega
    have hltEnd : info.ramSizeKb.toNat * 0x0400 - 1 + 0x1000 < 2 ^ 16 := by omega
    have hposRam : 1 ≤ info.ramSizeKb.toNat * 0x0400 := by omega
    have hend0 : addUpTo 16 rx.startAddress.toNat rx.size.toNat = .ok rx.area.stop :=
      check_of hlt0
    have hend1 : addUpTo 16 tx.startAddress.toNat tx.size.toNat = .ok tx.area.stop :=
      check_of hlt1
    rw [hend0, ok_bind, sub_of_le hpos0, ok_bind, hend1, ok_bind, sub_of_le hpos1, ok_bind,
      mulUpTo, check_of hltRam, ok_bind, sub_of_le hposRam, ok_bind, addUpTo, check_of hltEnd,
      ok_bind, spaceBehind_eq hpos0 hpos1 hpos, allocated]
    by_cases hsize : spaceBehind info rx tx < spaceBefore rx tx
    · rw [if_pos hsize, if_pos hsize]
    · have hnext : max (rx.area.stop - 1) (tx.area.stop - 1) + 1 =
          max rx.area.stop tx.area.stop := by omega
      have hltNext : max rx.area.stop tx.area.stop < 2 ^ 16 := by omega
      rw [if_neg hsize, if_neg hsize, addUpTo, hnext, check_of hltNext]
      rfl

/-- Where the memory lies and how long it is. -/
lemma processDataRegion_allocated (hends : EndsBelow rx tx) (hrx : 1 ≤ rx.area.stop)
    (hram : info.processRam.stop ≤ 2 ^ 16) :
    (allocated info rx tx).processDataRegion =
      if spaceBehind info rx tx < spaceBefore rx tx then ⟨0x1000, spaceBefore rx tx⟩
      else ⟨max rx.area.stop tx.area.stop, spaceBehind info rx tx⟩ := by
  obtain ⟨hlt0, hlt1⟩ := hends
  have hstop (sm : SyncManager) : sm.area.start ≤ sm.area.stop := Nat.le_add_right _ _
  have := hstop rx
  have := hstop tx
  have hpos : 0x1000 ≤ info.processRam.stop := Nat.le_add_right _ _
  rw [allocated]
  by_cases hsize : spaceBehind info rx tx < spaceBefore rx tx
  · have hlength : (UInt16.ofNat (spaceBefore rx tx)).toNat = spaceBefore rx tx := by
      have hlt : spaceBefore rx tx < 2 ^ 16 := by
        unfold spaceBefore
        omega
      rw [UInt16.toNat_ofNat', Nat.mod_eq_of_lt hlt]
    rw [if_pos hsize, if_pos hsize, SlaveInfo.processDataRegion, hlength]
    rfl
  · have hmax : (UInt16.ofNat (max rx.area.stop tx.area.stop)).toNat =
        max rx.area.stop tx.area.stop := by
      have hlt : max rx.area.stop tx.area.stop < 2 ^ 16 := by omega
      rw [UInt16.toNat_ofNat', Nat.mod_eq_of_lt hlt]
    have hlength : (UInt16.ofNat (spaceBehind info rx tx)).toNat = spaceBehind info rx tx := by
      have hlt : spaceBehind info rx tx < 2 ^ 16 := by
        unfold spaceBehind
        have hpos : 1 ≤ max rx.area.stop tx.area.stop := by omega
        omega
      rw [UInt16.toNat_ofNat', Nat.mod_eq_of_lt hlt]
    rw [if_neg hsize, if_neg hsize, SlaveInfo.processDataRegion, Option.getD_some, hmax, hlength]

lemma disjoint_processDataRegion_allocated (hends : EndsBelow rx tx) (hrx : 1 ≤ rx.area.stop)
    (hram : info.processRam.stop ≤ 2 ^ 16) :
    (allocated info rx tx).processDataRegion.Disjoint rx.area ∧
      (allocated info rx tx).processDataRegion.Disjoint tx.area := by
  rw [processDataRegion_allocated hends hrx hram]
  by_cases hsize : spaceBehind info rx tx < spaceBefore rx tx
  · rw [if_pos hsize]
    unfold spaceBefore at hsize ⊢
    constructor <;> refine .inl ?_ <;> simp only [Range.stop] <;> omega
  · rw [if_neg hsize]
    exact ⟨.inr (Nat.le_max_left _ _), .inr (Nat.le_max_right _ _)⟩

/-! ## The promise -/

/-- **What is promised of the function**: it returns, and the memory for process data lies in the
process RAM, apart from both mailboxes, and is the larger of the two spaces. -/
def Allocates (info : SlaveInfo) (rx tx : SyncManager) : Prop :=
  ∃ info', setProcessDataSmSizeOffset info = .ok info' ∧
    info'.processDataRegion.Within info.processRam ∧
    info'.processDataRegion.Disjoint rx.area ∧ info'.processDataRegion.Disjoint tx.area ∧
    info'.processDataRegion.length = max (spaceBefore rx tx) (spaceBehind info rx tx)

/-- **Where the memory for process data lies.**  For every process RAM of 1 to 60 KiB and every two
mailboxes of 1 to 256 bytes in it, the promise is kept exactly if neither mailbox ends with the
64 KiB. -/
theorem allocates_iff (hmailboxes : info.HasMailboxes rx tx)
    (hram : info.ramSizeKb.toNat ∈ Set.Icc 1 60) (hrxSize : rx.size.toNat ∈ Set.Icc 1 256)
    (htxSize : tx.size.toNat ∈ Set.Icc 1 256) (hrx : rx.area.Within info.processRam)
    (htx : tx.area.Within info.processRam) : Allocates info rx tx ↔ EndsBelow rx tx := by
  obtain ⟨hrx₀, hrx₁⟩ := hrx
  obtain ⟨htx₀, htx₁⟩ := htx
  have hend : info.processRam.stop = 0x1000 + 1024 * info.ramSizeKb.toNat := rfl
  have hrxStop : rx.area.stop = rx.area.start + rx.size.toNat := rfl
  have htxStop : tx.area.stop = tx.area.start + tx.size.toNat := rfl
  have hle : info.processRam.stop ≤ 2 ^ 16 := by
    have := hram.2
    omega
  constructor
  · rintro ⟨info', h, -⟩
    exact ((setProcessDataSmSizeOffset_eq_ok_iff hmailboxes).mp h).1
  · intro hends
    have hpos := hrxSize.1
    have hpos' := htxSize.1
    have hrxPos : 1 ≤ rx.area.stop := by omega
    have htxPos : 1 ≤ tx.area.stop := by omega
    obtain ⟨hdisjoint, hdisjoint'⟩ := disjoint_processDataRegion_allocated hends hrxPos hle
    refine ⟨allocated info rx tx, (setProcessDataSmSizeOffset_eq_ok_iff hmailboxes).mpr
      ⟨hends, hrxPos, htxPos, hram.1, hle, rfl⟩, ?_, hdisjoint, hdisjoint', ?_⟩
    all_goals
      rw [processDataRegion_allocated hends hrxPos hle]
      by_cases hsize : spaceBehind info rx tx < spaceBefore rx tx
    · rw [if_pos hsize]
      have hstart : info.processRam.start = 0x1000 := rfl
      refine ⟨Nat.le_of_eq hstart, ?_⟩
      show 0x1000 + spaceBefore rx tx ≤ info.processRam.stop
      unfold spaceBefore
      omega
    · rw [if_neg hsize]
      have hstart : info.processRam.start = 0x1000 := rfl
      refine ⟨?_, ?_⟩
      · show info.processRam.start ≤ max rx.area.stop tx.area.stop
        omega
      · show max rx.area.stop tx.area.stop + spaceBehind info rx tx ≤ info.processRam.stop
        rw [spaceBehind, Nat.add_sub_of_le (Nat.max_le.mpr ⟨hrx₁, htx₁⟩)]
    · rw [if_pos hsize, Nat.max_eq_left (Nat.le_of_lt hsize)]
    · rw [if_neg hsize, Nat.max_eq_right (Nat.le_of_not_lt hsize)]

/-! ## A mailbox at the end of the 64 KiB -/

/-- A slave whose mailboxes end with the RAM. -/
def fullRam : SlaveInfo :=
  { SlaveInfo.default with
    numberOfSm := 4
    ramSizeKb := 60
    sm := #v[some (.mailboxRx ⟨0, 0x80, 0x1000⟩), some (.mailboxTx ⟨1, 0x80, 0xFF80⟩),
      some .processDataRx, some .processDataTx] }

lemma setProcessDataSmSizeOffset_fullRam :
    setProcessDataSmSizeOffset fullRam = .error .arithmetic := by
  decide +kernel

/-- Both mailboxes lie in the RAM, and the function panics. -/
theorem fullRam_not_allocates :
    ¬ ∀ (info : SlaveInfo) (rx tx : SyncManager), info.HasMailboxes rx tx →
      info.ramSizeKb.toNat ∈ Set.Icc 1 60 → rx.size.toNat ∈ Set.Icc 1 256 →
      tx.size.toNat ∈ Set.Icc 1 256 → rx.area.Within info.processRam →
      tx.area.Within info.processRam → Allocates info rx tx := by
  intro hall
  obtain ⟨info', h, -⟩ := hall fullRam ⟨0, 0x80, 0x1000⟩ ⟨1, 0x80, 0xFF80⟩ ⟨rfl, rfl⟩
    ⟨by decide, by decide⟩ ⟨by decide, by decide⟩ ⟨by decide, by decide⟩ (by decide) (by decide)
  rw [setProcessDataSmSizeOffset_fullRam] at h
  cases h

/-- Mailboxes in the middle, and the larger space in front of them. -/
theorem allocates_midRam :
    Allocates { fullRam with
      ramSizeKb := 8
      sm := #v[some (.mailboxRx ⟨0, 0x100, 0x2800⟩), some (.mailboxTx ⟨1, 0x100, 0x2900⟩), none,
        none] } ⟨0, 0x100, 0x2800⟩ ⟨1, 0x100, 0x2900⟩ :=
  (allocates_iff ⟨rfl, rfl⟩ ⟨by decide, by decide⟩ ⟨by decide, by decide⟩
    ⟨by decide, by decide⟩ (by decide) (by decide)).mpr (by decide)

end SlaveInitTask

end EtherCat
