import EtherCat.Foundation.Layout
import EtherCat.Master.ConfigureForOp
import Mathlib.Tactic.FinCases

/-!
# Where the process data entries lie

The entries of a direction should lie one after another in the range of their FMMU, each at the
sum of the lengths before it (`LaidOut`).  They do exactly when every entry starts at a byte
boundary (`ByteAligned`): an entry that starts inside a byte is placed eight bits too far.
-/

namespace EtherCat

open Rust Rust.Exec Layout

/-- The bits an entry occupies. -/
def PdoEntry.range (entry : PdoEntry) : Range where
  start := (entry.logicalAddress.getD 0).toNat * 8 + entry.startBit.toNat
  length := entry.bitLength.toNat

/-- The lengths of entries, in bits. -/
def bitLengths (entries : List PdoEntry) : List ℕ := entries.map fun entry => entry.bitLength.toNat

/-- The logical range of an FMMU slot that is mapped. -/
def Slave.mappedRange (slave : Slave) (i : Fin 2) : Option Range :=
  match slave.fmmu.get i.castSucc with
  | none => none
  | some fmmu => fmmu.logicalAddress.map fun address =>
      ⟨address.toNat * 8 + fmmu.startBit.toNat, fmmu.bitLength.toNat⟩

/-- The range and the entries of a direction of the slave at a position, if it is mapped. -/
def Network.mapped (network : Network) (position : ℕ) (i : Fin 2) :
    Option (Range × List PdoEntry) :=
  match network.slaves[position]? with
  | some (some slave, config) => (slave.mappedRange i).map fun range => (range, config.entries i)
  | _ => none

/-- **What the layout promises** for the entries of a direction and the range of its FMMU. -/
structure LaidOut (fmmu : Range) (entries : List PdoEntry) : Prop where
  position : ∀ k entry, entries[k]? = some entry →
    entry.logicalAddress.isSome ∧ entry.startBit.toNat < 8 ∧
      entry.range.start = fmmu.start + ((bitLengths entries).take k).sum
  contiguous : ∀ k r s, (entries.map PdoEntry.range)[k]? = some r →
    (entries.map PdoEntry.range)[k + 1]? = some s → r.stop = s.start
  disjoint : (entries.map PdoEntry.range).Pairwise Range.Disjoint
  within : ∀ r ∈ entries.map PdoEntry.range, r.Within fmmu

/-- Laid out from `start` on, every entry starts at a byte boundary. -/
def ByteAligned (start : ℕ) (entries : List PdoEntry) : Prop :=
  ∀ k < entries.length, (start + ((bitLengths entries).take k).sum) % 8 = 0

/-! ## One entry -/

@[simp] lemma PdoEntry.bitLength_assign (entry : PdoEntry) (totalBits : ℕ) :
    (entry.assign totalBits).bitLength = entry.bitLength := rfl

lemma PdoEntry.startBit_assign (entry : PdoEntry) (totalBits : ℕ) :
    (entry.assign totalBits).startBit.toNat = totalBits % 8 := by
  by_cases h : totalBits % 8 = 0
  · simp [assign, h, startBit, setLogicalAddress, setStartBit, LogicalBits.setLogicalAddress,
      LogicalBits.setStartBit]
  · simp only [assign, h, startBit, setLogicalAddress, setStartBit, if_false,
      LogicalBits.setLogicalAddress, LogicalBits.setStartBit, UInt8.toNat_ofNat']
    omega

lemma PdoEntry.logicalAddress_assign (entry : PdoEntry) (totalBits : ℕ) :
    (entry.assign totalBits).logicalAddress =
      some (UInt32.ofNat (if totalBits % 8 = 0 then totalBits / 8 else totalBits / 8 + 1)) := by
  by_cases h : totalBits % 8 = 0
  · simp [assign, h, logicalAddress, setLogicalAddress, LogicalBits.setLogicalAddress]
  · simp [assign, h, logicalAddress, setLogicalAddress, LogicalBits.setLogicalAddress]

/-- Inside a byte the address is rounded up and the bit kept: eight bits too far. -/
lemma PdoEntry.range_assign (entry : PdoEntry) {totalBits : ℕ} (h : totalBits < 2 ^ 34) :
    (entry.assign totalBits).range =
      ⟨if totalBits % 8 = 0 then totalBits else totalBits + 8, entry.bitLength.toNat⟩ := by
  simp only [range, logicalAddress_assign, startBit_assign, Option.getD_some,
    UInt32.toNat_ofNat', bitLength_assign, Range.mk.injEq, and_true]
  split <;> omega

/-! ## The loops -/

/-- The entries after the loop, each by itself, and the running total. -/
lemma assignEntries_eq_ok {entries entries' : List PdoEntry} {totalBits totalBits' : ℕ}
    (h : assignEntries entries totalBits = .ok (entries', totalBits')) :
    (∀ k : ℕ, entries'[k]? = entries[k]?.map fun entry : PdoEntry =>
        entry.assign (totalBits + ((bitLengths entries).take k).sum)) ∧
      totalBits' = totalBits + (bitLengths entries).sum := by
  induction entries generalizing totalBits entries' with
  | nil =>
      cases h
      simp [bitLengths]
  | cons entry entries ih =>
      obtain ⟨total, htotal, hrest⟩ := bind_eq_ok.mp h
      obtain ⟨⟨rest, last⟩, hloop, heq⟩ := bind_eq_ok.mp hrest
      obtain ⟨-, rfl⟩ := addUpTo_eq_ok_iff.mp htotal
      cases heq
      obtain ⟨hentries, rfl⟩ := ih hloop
      refine ⟨fun k => ?_, ?_⟩
      · cases k with
        | zero => simp
        | succ k =>
            simp [hentries, bitLengths, Nat.add_assoc]
      · simp [bitLengths, Nat.add_assoc]

lemma assignEntries_append {es fs es' fs' : List PdoEntry} {t₀ t₁ t₂ : ℕ}
    (he : assignEntries es t₀ = .ok (es', t₁)) (hf : assignEntries fs t₁ = .ok (fs', t₂)) :
    assignEntries (es ++ fs) t₀ = .ok (es' ++ fs', t₂) := by
  induction es generalizing t₀ es' with
  | nil =>
      cases he
      exact hf
  | cons e es ih =>
      obtain ⟨total, htotal, hrest⟩ := bind_eq_ok.mp he
      obtain ⟨⟨rest, last⟩, hloop, heq⟩ := bind_eq_ok.mp hrest
      cases heq
      exact bind_eq_ok.mpr ⟨total, htotal, bind_eq_ok.mpr ⟨_, ih hloop, rfl⟩⟩

/-- The mappings do not matter: their entries are one list. -/
lemma assignMappings_eq_ok {pdoMaps pdoMaps' : List PdoMapping} {totalBits totalBits' : ℕ}
    (h : assignMappings pdoMaps totalBits = .ok (pdoMaps', totalBits')) :
    assignEntries (pdoMaps.flatMap PdoMapping.entries) totalBits =
      .ok (pdoMaps'.flatMap PdoMapping.entries, totalBits') := by
  induction pdoMaps generalizing totalBits pdoMaps' with
  | nil =>
      cases h
      rfl
  | cons pdoMap pdoMaps ih =>
      obtain ⟨⟨entries, total⟩, hentries, hrest⟩ := bind_eq_ok.mp h
      obtain ⟨⟨rest, last⟩, hloop, heq⟩ := bind_eq_ok.mp hrest
      cases heq
      exact assignEntries_append hentries (ih hloop)

@[simp] lemma SlaveConfig.entries_setMappings (config : SlaveConfig) (i : Fin 2)
    (maps : List PdoMapping) :
    (config.setMappings i maps).entries i = maps.flatMap PdoMapping.entries := by
  fin_cases i <;> rfl

lemma SlaveConfig.entries_setMappings_of_ne (config : SlaveConfig) {i j : Fin 2} (h : j ≠ i)
    (maps : List PdoMapping) : (config.setMappings i maps).entries j = config.entries j := by
  fin_cases i <;> fin_cases j <;> simp_all [setMappings, entries, mappings]

/-- One direction: nothing is mapped and nothing changes, or the entries are assigned from the
start of the FMMU's range and their lengths fill the range. -/
lemma assignDirection_eq_ok {slave : Slave} {i : Fin 2} {config config' : SlaveConfig}
    (h : assignDirection slave i config = .ok config') :
    (∀ j ≠ i, config'.entries j = config.entries j) ∧
      ∀ fmmu, slave.mappedRange i = some fmmu →
        fmmu.start < 2 ^ 33 ∧ fmmu.length < 2 ^ 16 ∧
        (config.entries i = [] ∧ config'.entries i = [] ∨
          fmmu.length = (bitLengths (config.entries i)).sum ∧
            ∃ last, assignEntries (config.entries i) fmmu.start =
              .ok (config'.entries i, last)) := by
  unfold assignDirection at h
  unfold Slave.mappedRange
  rcases hslot : slave.fmmu.get i.castSucc with _ | fmmuConfig
  · rw [hslot] at h
    cases h
    simp
  rcases haddr : fmmuConfig.logicalAddress with _ | startAddress
  · simp only [hslot, haddr] at h
    cases h
    simp [haddr]
  simp only [hslot, haddr, Option.map_some] at h ⊢
  obtain ⟨startBits, hstartBits, h⟩ := bind_eq_ok.mp h
  obtain ⟨start, hstart, h⟩ := bind_eq_ok.mp h
  obtain ⟨hsmall, rfl⟩ := mulUpTo_eq_ok_iff.mp hstartBits
  obtain ⟨-, rfl⟩ := addUpTo_eq_ok_iff.mp hstart
  have hbit := fmmuConfig.startBit.toNat_lt
  have hlength := fmmuConfig.bitLength.toNat_lt
  by_cases hempty : (config.mappings i).isEmpty
  · rw [if_pos hempty] at h
    cases h
    have hnone : config.entries i = [] := by
      rw [SlaveConfig.entries, List.isEmpty_iff.mp hempty]
      rfl
    refine ⟨fun _ _ => rfl, fun fmmu hfmmu => ?_⟩
    cases hfmmu
    exact ⟨by dsimp only; omega, hlength, .inl ⟨hnone, hnone⟩⟩
  · rw [if_neg hempty] at h
    obtain ⟨⟨maps, total⟩, hmaps, h⟩ := bind_eq_ok.mp h
    obtain ⟨length, hsub, h⟩ := bind_eq_ok.mp h
    obtain ⟨_, hassert, h⟩ := bind_eq_ok.mp h
    cases h
    have hentries := assignMappings_eq_ok hmaps
    have htotal := (assignEntries_eq_ok hentries).2
    have hfills := assert_eq_ok_iff.mp hassert
    obtain ⟨-, rfl⟩ := sub_eq_ok_iff.mp hsub
    refine ⟨fun j hj => config.entries_setMappings_of_ne hj maps, fun fmmu hfmmu => ?_⟩
    cases hfmmu
    refine ⟨by dsimp only; omega, hlength, .inr ⟨?_, total, ?_⟩⟩
    · simp only [SlaveConfig.entries]
      omega
    · rw [SlaveConfig.entries_setMappings]
      exact hentries

/-! ## The layout -/

lemma bitLengths_assigned {entries entries' : List PdoEntry} {totalBits totalBits' : ℕ}
    (h : assignEntries entries totalBits = .ok (entries', totalBits')) :
    bitLengths entries' = bitLengths entries := by
  refine List.ext_getElem? fun k => ?_
  simp only [bitLengths, List.getElem?_map, (assignEntries_eq_ok h).1 k, Option.map_map]
  rfl

/-- Assigned entries that start at byte boundaries are laid out one after another. -/
lemma map_range_of_byteAligned {entries entries' : List PdoEntry} {start last : ℕ}
    (hsmall : start + (bitLengths entries).sum < 2 ^ 34)
    (h : assignEntries entries start = .ok (entries', last))
    (haligned : ByteAligned start entries) :
    entries'.map PdoEntry.range = place start (bitLengths entries) := by
  refine List.ext_getElem? fun k => ?_
  rw [List.getElem?_map, (assignEntries_eq_ok h).1, getElem?_place]
  rcases hk : entries[k]? with _ | entry
  · simp [bitLengths, hk]
  · have hlt : k < entries.length := (List.getElem?_eq_some_iff.mp hk).1
    have hsum := sum_take_le (bitLengths entries) k
    have hrange := entry.range_assign
      (show start + ((bitLengths entries).take k).sum < 2 ^ 34 by omega)
    rw [if_pos (haligned k hlt)] at hrange
    have hlength : (bitLengths entries)[k]? = some entry.bitLength.toNat := by
      simp [bitLengths, hk]
    simp only [hlength, Option.map_some, hrange]

lemma laidOut_of_byteAligned {entries entries' : List PdoEntry} {fmmu : Range} {last : ℕ}
    (hlength : fmmu.length = (bitLengths entries).sum)
    (hsmall : fmmu.start + (bitLengths entries).sum < 2 ^ 34)
    (h : assignEntries entries fmmu.start = .ok (entries', last))
    (haligned : ByteAligned fmmu.start entries) : LaidOut fmmu entries' := by
  have hplace := map_range_of_byteAligned hsmall h haligned
  refine ⟨fun k entry' hk => ?_, ?_, ?_, ?_⟩
  · have hentry := (assignEntries_eq_ok h).1 k
    rw [hk] at hentry
    obtain ⟨entry, -, rfl⟩ := Option.map_eq_some_iff.mp hentry.symm
    have hrange : (place fmmu.start (bitLengths entries))[k]? = _ :=
      hplace ▸ List.getElem?_map (f := PdoEntry.range) ▸ congrArg (Option.map _) hk
    refine ⟨by rw [PdoEntry.logicalAddress_assign]; rfl, ?_, ?_⟩
    · rw [PdoEntry.startBit_assign]
      exact Nat.mod_lt _ (by decide)
    · rw [bitLengths_assigned h]
      rw [getElem?_place] at hrange
      obtain ⟨n, -, hn⟩ := Option.map_eq_some_iff.mp hrange
      rw [← hn]
  · rw [hplace]
    exact fun k r s => stop_eq_start_place
  · rw [hplace]
    exact pairwise_disjoint_place _ _
  · rw [hplace]
    intro r hr
    have hwithin := within_of_mem_place hr
    rwa [← hlength] at hwithin

lemma byteAligned_of_laidOut {entries entries' : List PdoEntry} {fmmu : Range} {last : ℕ}
    (hsmall : fmmu.start + (bitLengths entries).sum < 2 ^ 34)
    (h : assignEntries entries fmmu.start = .ok (entries', last))
    (hlaid : LaidOut fmmu entries') : ByteAligned fmmu.start entries := by
  intro k hk
  have hentry := (assignEntries_eq_ok h).1 k
  rw [List.getElem?_eq_getElem hk] at hentry
  have hstart := (hlaid.position k _ hentry).2.2
  have hsum := sum_take_le (bitLengths entries) k
  rw [bitLengths_assigned h, PdoEntry.range_assign _ (by omega)] at hstart
  -- An entry inside a byte would start eight bits further on.
  by_contra hne
  rw [if_neg hne] at hstart
  dsimp only at hstart
  omega

/-! ## The network -/

lemma assignSlave_eq_ok {slot slot' : Slave × SlaveConfig} (h : assignSlave slot = .ok slot') :
    slot'.1 = slot.1 ∧ ∀ i fmmu, slot.1.mappedRange i = some fmmu →
      bitLengths (slot'.2.entries i) = bitLengths (slot.2.entries i) ∧
      (LaidOut fmmu (slot'.2.entries i) ↔ ByteAligned fmmu.start (slot.2.entries i)) := by
  obtain ⟨slave, config⟩ := slot
  obtain ⟨config₁, h₀, h⟩ := bind_eq_ok.mp h
  obtain ⟨config₂, h₁, h⟩ := bind_eq_ok.mp h
  cases h
  obtain ⟨hframe₀, hassign₀⟩ := assignDirection_eq_ok h₀
  obtain ⟨hframe₁, hassign₁⟩ := assignDirection_eq_ok h₁
  have key : ∀ {es es' : List PdoEntry} {fmmu : Range}, fmmu.start < 2 ^ 33 ∧
      fmmu.length < 2 ^ 16 ∧ (es = [] ∧ es' = [] ∨ fmmu.length = (bitLengths es).sum ∧
        ∃ last, assignEntries es fmmu.start = .ok (es', last)) →
      bitLengths es' = bitLengths es ∧ (LaidOut fmmu es' ↔ ByteAligned fmmu.start es) := by
    rintro es es' fmmu ⟨hstart, hlength, ⟨rfl, rfl⟩ | ⟨hfill, last, hassign⟩⟩
    · exact ⟨rfl, fun _ k hk => absurd hk (Nat.not_lt_zero k),
        fun _ => ⟨by simp, by simp, by simp, by simp⟩⟩
    · exact ⟨bitLengths_assigned hassign, byteAligned_of_laidOut (by omega) hassign,
        laidOut_of_byteAligned hfill (by omega) hassign⟩
  refine ⟨rfl, fun i fmmu hfmmu => ?_⟩
  match i with
  | 0 =>
      have h := hassign₀ fmmu hfmmu
      rw [← hframe₁ 0 (by decide)] at h
      exact key h
  | 1 =>
      have h := hassign₁ fmmu hfmmu
      rw [hframe₀ 1 (by decide)] at h
      exact key h

/-- **The entries are laid out exactly when they start at byte boundaries.**  Whenever the
function returns, for every slave and each of its mapped directions. -/
theorem setLogicalAddressToPdoEntryConfig_laidOut_iff {network network' : Network}
    (h : setLogicalAddressToPdoEntryConfig network = .ok network') {position : ℕ} {i : Fin 2}
    {fmmu : Range} {entries : List PdoEntry}
    (hmapped : network.mapped position i = some (fmmu, entries)) :
    ∃ entries', network'.mapped position i = some (fmmu, entries') ∧
      bitLengths entries' = bitLengths entries ∧
      (LaidOut fmmu entries' ↔ ByteAligned fmmu.start entries) := by
  rcases Network.mapSlaves_eq_ok h position with
    ⟨slave, config, slot', hslot, hassign, hslot'⟩ | ⟨hempty, -⟩
  · obtain ⟨hslave, hassigned⟩ := assignSlave_eq_ok hassign
    simp only [Network.mapped, hslot] at hmapped
    obtain ⟨range, hrange, heq⟩ := Option.map_eq_some_iff.mp hmapped
    cases heq
    refine ⟨slot'.2.entries i, ?_, hassigned i fmmu hrange⟩
    simp [Network.mapped, hslot', hslave, hrange]
  · unfold Network.mapped at hmapped
    split at hmapped
    · next hslot => exact absurd hslot (hempty _ _)
    · cases hmapped

/-- A slave whose inputs are mapped to `bitLength` bits from 0x1000 on, with these entries. -/
def inputSlave (bitLength : UInt16) (lengths : List UInt8) : Option Slave × SlaveConfig :=
  (some {
      info := {
        configuredAddress := 1
        linkedPorts := #v[true, false, false, false]
        sm := #v[none, none, none, some .processDataTx]
        supportDc := false
        supportCoe := true }
      fmmu := #v[none, some ⟨⟨some 0x1000, 0, bitLength⟩, 0x1100, .input⟩, none]
      alState := .preOperational
      mailboxCount := 0
      dcContext := .default },
    { inputPdoMappings := [⟨false, 0x1A00, lengths.map (PdoEntry.new 0x6000 1)⟩]
      outputPdoMappings := [] })

/-- Two analog inputs of sixteen bits each. -/
theorem setLogicalAddressToPdoEntryConfig_laidOut_iff_words :
    ∃ network' entries', setLogicalAddressToPdoEntryConfig ⟨[inputSlave 32 [16, 16]], 1⟩ =
        .ok network' ∧
      network'.mapped 0 1 = some (⟨0x8000, 32⟩, entries') ∧ LaidOut ⟨0x8000, 32⟩ entries' := by
  have h : setLogicalAddressToPdoEntryConfig ⟨[inputSlave 32 [16, 16]], 1⟩ =
      .ok ((setLogicalAddressToPdoEntryConfig ⟨[inputSlave 32 [16, 16]], 1⟩).toOption.getD
        (Network.new [])) := by decide +kernel
  obtain ⟨entries', hmapped, -, hiff⟩ := setLogicalAddressToPdoEntryConfig_laidOut_iff h
    (show Network.mapped ⟨[inputSlave 32 [16, 16]], 1⟩ 0 1 = some (⟨0x8000, 32⟩, _) from rfl)
  refine ⟨_, entries', h, hmapped, hiff.mpr ?_⟩
  unfold ByteAligned
  decide +kernel

/-- Eight digital inputs of one bit: the second entry is placed at bit 9 of the range instead of
bit 1. -/
theorem setLogicalAddressToPdoEntryConfig_misplaces_bits :
    ∃ network' fmmu entries,
      setLogicalAddressToPdoEntryConfig ⟨[inputSlave 8 (List.replicate 8 1)], 1⟩ = .ok network' ∧
      network'.mapped 0 1 = some (fmmu, entries) ∧
      entries[1]?.map (fun entry => entry.range.start) = some (fmmu.start + 9) ∧
      ¬ LaidOut fmmu entries := by
  refine ⟨(setLogicalAddressToPdoEntryConfig ⟨[inputSlave 8 (List.replicate 8 1)], 1⟩
    |>.toOption.getD (Network.new [])), ⟨0x8000, 8⟩, _, by decide +kernel, rfl,
    by decide +kernel, fun hlaid => ?_⟩
  have hstart := (hlaid.position 1 _ rfl).2.2
  exact absurd hstart (by decide +kernel)

end EtherCat
