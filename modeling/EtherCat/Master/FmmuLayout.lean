import EtherCat.Foundation.Layout
import EtherCat.Master.ConfigureFmmu
import Mathlib.Tactic.FinCases

/-!
# The FMMUs map the process data image

`configure_fmmu` assigns logical addresses in one pass and writes the registers in a second one.
The registers that it writes map the FMMUs that hold something one after another, in slave and slot
order, to the bytes of the image (`MapsImage`).
-/

namespace EtherCat

open Rust Rust.Exec BitField Configure Layout

/-- An FMMU of a slave that maps something. -/
structure FmmuSlot where
  slaveAddress : SlaveAddress
  slot : Fin 3
  config : FmmuConfig

/-- The configurations as the program makes them: whole bytes, and no start bit. -/
def FmmuConfig.IsBytes (fmmu : FmmuConfig) : Prop :=
  fmmu.bitLength.toNat % 8 = 0 ∧ fmmu.startBit = 0

/-- The number of bytes of an FMMU. -/
def FmmuConfig.bytes (fmmu : FmmuConfig) : ℕ := fmmu.bitLength.toNat / 8

/-- The FMMU in a slot, if it maps something. -/
def Slave.fmmuSlot (slave : Slave) (i : Fin 3) : List FmmuSlot :=
  match slave.fmmu.get i with
  | none => []
  | some fmmu => if fmmu.bitLength = 0 then [] else [⟨slave.info.slaveAddress, i, fmmu⟩]

/-- The FMMUs of a slave that map something, in order. -/
def Slave.fmmuSlots (slave : Slave) : List FmmuSlot :=
  slave.fmmuSlot 0 ++ (slave.fmmuSlot 1 ++ slave.fmmuSlot 2)

/-- An FMMU of the slave maps process data of this direction. -/
def Slave.mapsDirection (slave : Slave) (direction : Direction) : Bool :=
  slave.fmmuSlots.any fun slot => slot.config.direction = direction

/-- One for inputs and two for outputs. -/
def Slave.wkc (slave : Slave) : ℕ :=
  (if slave.mapsDirection .input then 1 else 0) + (if slave.mapsDirection .output then 2 else 0)

namespace Network

/-- The FMMUs of all slaves that map something, in slave and slot order. -/
def fmmuSlots (network : Network) : List FmmuSlot :=
  (network.slaves.filterMap Prod.fst).flatMap Slave.fmmuSlots

/-- The lengths of their ranges. -/
def fmmuBytes (network : Network) : List ℕ :=
  network.fmmuSlots.map fun slot => slot.config.bytes

/-- The working counter of a slave that answers in every direction that is mapped. -/
def wkc (network : Network) : ℕ := ((network.slaves.filterMap Prod.fst).map Slave.wkc).sum

/-- The FMMUs of all slaves map whole bytes. -/
def FmmusAreBytes (network : Network) : Prop :=
  ∀ slave ∈ network.slaves.filterMap Prod.fst, ∀ i, ∀ fmmu ∈ slave.fmmu.get i, fmmu.IsBytes

end Network

/-- The logical bytes that a register maps. -/
def mappedBytes (register : List UInt8) : Range where
  start := FmmuRegister.logicalStartAddress.val register
  length := FmmuRegister.length.val register

/-- **A register that maps a slot**: whole bytes of the logical address space, to the physical
address of the configuration and in its direction. -/
structure RegisterOf (slot : FmmuSlot) (register : List UInt8) : Prop where
  length : register.length = FmmuRegister.size
  bytes : (mappedBytes register).length * 8 = slot.config.bitLength.toNat
  startBit : FmmuRegister.logicalStartBit.val register = 0
  endBit : FmmuRegister.logicalEndBit.val register = 7
  physical : FmmuRegister.physicalStartAddress.val register = slot.config.physicalAddress.toNat
  physicalBit : FmmuRegister.physicalStartBit.val register = 0
  read : FmmuRegister.readEnable.val register = if slot.config.direction = .input then 1 else 0
  write : FmmuRegister.writeEnable.val register = if slot.config.direction = .output then 1 else 0
  enable : FmmuRegister.enable.val register = 1

/-- The write of the register of a slot. -/
def FmmuSlot.write (slot : FmmuSlot) (register : List UInt8) : Access :=
  .writeRegister (.single slot.slaveAddress)
    (FmmuRegister.address + .ofNat slot.slot.val * .ofNat FmmuRegister.size) register

/-- **What the registers of an image promise**: each maps its slot, and their ranges follow each
other from the start of the logical address space to the end of the image. -/
structure MapsImage (slots : List FmmuSlot) (registers : List (List UInt8)) (imageSize : ℕ) :
    Prop where
  each : List.Forall₂ RegisterOf slots registers
  first : ∀ r ∈ (registers.map mappedBytes).head?, r.start = logicalStartAddress.toNat
  contiguous : ∀ k r s, (registers.map mappedBytes)[k]? = some r →
    (registers.map mappedBytes)[k + 1]? = some s → r.stop = s.start
  disjoint : (registers.map mappedBytes).Pairwise Range.Disjoint
  covers : ((registers.map mappedBytes).map Range.length).sum = imageSize

/-! ## The register of an FMMU -/

/-- The fields of a register that maps a slot to a range of bytes. -/
def FmmuConfig.assignments (fmmu : FmmuConfig) (range : Range) : List (Field × ℕ) :=
  [(FmmuRegister.logicalStartAddress, range.start), (FmmuRegister.length, range.length),
    (FmmuRegister.logicalEndBit, 7),
    (FmmuRegister.physicalStartAddress, fmmu.physicalAddress.toNat),
    (FmmuRegister.physicalStartBit, 0),
    (FmmuRegister.readEnable, if fmmu.direction = .input then 1 else 0),
    (FmmuRegister.writeEnable, if fmmu.direction = .output then 1 else 0),
    (FmmuRegister.enable, 1)]

/-- The register of an FMMU at a place in the image. -/
def FmmuConfig.registerAt (fmmu : FmmuConfig) (range : Range) : List UInt8 :=
  Field.putAll (List.replicate FmmuRegister.size 0) (fmmu.assignments range)

/-- The fields of the register that are set, in order. -/
def FmmuRegister.written : List Field :=
  [FmmuRegister.logicalStartAddress, FmmuRegister.length, FmmuRegister.logicalEndBit,
    FmmuRegister.physicalStartAddress, FmmuRegister.physicalStartBit, FmmuRegister.readEnable,
    FmmuRegister.writeEnable, FmmuRegister.enable]

lemma FmmuConfig.map_fst_assignments (fmmu : FmmuConfig) (range : Range) :
    (fmmu.assignments range).map Prod.fst = FmmuRegister.written := rfl

lemma FmmuConfig.assignments_fit (fmmu : FmmuConfig) (range : Range) :
    ∀ f ∈ (fmmu.assignments range).map Prod.fst,
      f.Fits (List.replicate FmmuRegister.size 0) := by
  rw [map_fst_assignments]
  decide

lemma FmmuRegister.written_disjoint : FmmuRegister.written.Pairwise Field.Disjoint := by
  decide +kernel

lemma FmmuConfig.register_eq (fmmu : FmmuConfig) (logicalAddress : UInt32) (byteLength : ℕ) :
    fmmu.register logicalAddress byteLength 7 =
      .ok (fmmu.registerAt ⟨logicalAddress.toNat, byteLength⟩) :=
  Field.setAll_eq_ok_iff.mpr ⟨fmmu.assignments_fit ⟨logicalAddress.toNat, byteLength⟩, rfl⟩

/-- A field of the register is what it was set to. -/
lemma FmmuConfig.val_registerAt (fmmu : FmmuConfig) (range : Range) {f : Field} {v : ℕ}
    (hmem : (f, v) ∈ fmmu.assignments range) (hv : v < 2 ^ f.width) :
    f.val (fmmu.registerAt range) = v := by
  rw [registerAt, Field.val_putAll_of_mem (fmmu.assignments_fit range)
    FmmuRegister.written_disjoint hmem, Nat.mod_eq_of_lt hv]

lemma FmmuConfig.mappedBytes_registerAt (fmmu : FmmuConfig) (range : Range)
    (hstart : range.start < 2 ^ 32) (hlength : range.length < 2 ^ 16) :
    mappedBytes (fmmu.registerAt range) = range := by
  have hs := fmmu.val_registerAt range (f := FmmuRegister.logicalStartAddress)
    (by simp [assignments]) hstart
  have hl := fmmu.val_registerAt range (f := FmmuRegister.length)
    (by simp [assignments]) hlength
  rw [mappedBytes, hs, hl]

lemma registerOf_registerAt (slot : FmmuSlot) (hbytes : slot.config.IsBytes) {start : ℕ}
    (hstart : start < 2 ^ 32) :
    RegisterOf slot (slot.config.registerAt ⟨start, slot.config.bytes⟩) := by
  have hlt := slot.config.bitLength.toNat_lt
  have hlength : slot.config.bytes < 2 ^ 16 := by
    rw [FmmuConfig.bytes]
    omega
  have hfield {f : Field} {v : ℕ} := slot.config.val_registerAt ⟨start, slot.config.bytes⟩
    (f := f) (v := v)
  constructor
  · rw [FmmuConfig.registerAt, Field.length_putAll, List.length_replicate]
  · rw [slot.config.mappedBytes_registerAt _ hstart hlength]
    have := hbytes.1
    simp only [FmmuConfig.bytes]
    omega
  · -- the start bit is the one field that is not set
    have hdisjoint : ∀ g ∈ FmmuRegister.written, FmmuRegister.logicalStartBit.Disjoint g := by
      decide +kernel
    rw [FmmuConfig.registerAt,
      Field.val_putAll_of_disjoint (slot.config.assignments_fit _) hdisjoint]
    decide +kernel
  · exact hfield (by simp [FmmuConfig.assignments]) (by decide)
  · exact hfield (by simp [FmmuConfig.assignments]) slot.config.physicalAddress.toNat_lt
  · exact hfield (by simp [FmmuConfig.assignments]) (by decide)
  · exact hfield (by simp [FmmuConfig.assignments]) (by split <;> decide)
  · exact hfield (by simp [FmmuConfig.assignments]) (by split <;> decide)
  · exact hfield (by simp [FmmuConfig.assignments]) (by decide)

/-! ## The logical addresses -/

/-- The bytes of a slot. -/
def slotBytes : Option FmmuConfig → ℕ
  | none => 0
  | some fmmu => fmmu.bytes

/-- A slot with something in this direction. -/
def slotMaps (direction : Direction) : Option FmmuConfig → Bool
  | none => false
  | some fmmu => decide (fmmu.bitLength ≠ 0) && decide (fmmu.direction = direction)

/-- A slot that maps something gets the byte address. -/
def placeSlot (address : ℕ) : Option FmmuConfig → Option FmmuConfig
  | none => none
  | some fmmu =>
    if fmmu.bitLength = 0 then some fmmu
    else some ((fmmu.setLogicalAddress (some (.ofNat address))).setStartBit 0)

namespace Slave

/-- The bytes of all slots. -/
def fmmuBytes (slave : Slave) : ℕ :=
  slotBytes (slave.fmmu.get 0) + slotBytes (slave.fmmu.get 1) + slotBytes (slave.fmmu.get 2)

/-- The slots one after another from a byte address on. -/
def placeFmmus (slave : Slave) (address : ℕ) : Slave :=
  { slave with
    fmmu := #v[placeSlot address (slave.fmmu.get 0),
      placeSlot (address + slotBytes (slave.fmmu.get 0)) (slave.fmmu.get 1),
      placeSlot (address + slotBytes (slave.fmmu.get 0) + slotBytes (slave.fmmu.get 1))
        (slave.fmmu.get 2)] }

end Slave

/-- All slaves one after another from a byte address on. -/
def placeSlaves : ℕ → List (Option Slave × SlaveConfig) → List (Option Slave × SlaveConfig)
  | _, [] => []
  | address, (none, config) :: slots => (none, config) :: placeSlaves address slots
  | address, (some slave, config) :: slots =>
    (some (slave.placeFmmus address), config) :: placeSlaves (address + slave.fmmuBytes) slots

lemma eight_mul_slotBytes {slot : Option FmmuConfig} (hslot : ∀ fmmu ∈ slot, fmmu.IsBytes) :
    8 * slotBytes slot = (slot.elim 0 fun fmmu => fmmu.bitLength.toNat) := by
  cases slot with
  | none => rfl
  | some fmmu =>
      have := (hslot fmmu rfl).1
      simp only [slotBytes, FmmuConfig.bytes, Option.elim_some]
      omega

lemma assignFmmu_eq {slot : Option FmmuConfig} (hslot : ∀ fmmu ∈ slot, fmmu.IsBytes)
    (address : ℕ) (hlt : address + slotBytes slot < 2 ^ 32) (hasTxData hasRxData : Bool) :
    assignFmmu ⟨8 * address, hasTxData, hasRxData⟩ slot =
      .ok (placeSlot address slot,
        ⟨8 * (address + slotBytes slot), hasTxData || slotMaps .input slot,
          hasRxData || slotMaps .output slot⟩) := by
  have hbits := eight_mul_slotBytes hslot
  cases slot with
  | none => simp [assignFmmu, placeSlot, slotBytes, slotMaps]
  | some fmmu =>
      simp only [Option.elim_some] at hbits
      by_cases hzero : fmmu.bitLength = 0
      · have hbytes : slotBytes (some fmmu) = 0 := by
          rw [hzero] at hbits
          simpa using hbits
        simp [assignFmmu, placeSlot, slotMaps, hzero, hbytes]
      · have hadd : addUpTo 64 (8 * address) fmmu.bitLength.toNat =
            .ok (8 * (address + slotBytes (some fmmu))) := by
          refine addUpTo_eq_ok_iff.mpr ⟨?_, ?_⟩ <;> omega
        have hplace : fmmu.setLogicalAddress (some (.ofNat (8 * address / 8))) =
            fmmu.setLogicalAddress (some (.ofNat address)) := by
          rw [Nat.mul_div_cancel_left address (by decide)]
        simp only [assignFmmu, hzero, if_false, placeSlot, slotMaps, hplace,
          Nat.mul_mod_right]
        refine bind_eq_ok.mpr ⟨_, hadd, ?_⟩
        simp only [FmmuConfig.setStartBit, FmmuConfig.setLogicalAddress, ne_eq, hzero,
          not_false_eq_true, decide_true, Bool.true_and]
        rfl

lemma Slave.mapsDirection_eq (slave : Slave) (direction : Direction) :
    slave.mapsDirection direction =
      (slotMaps direction (slave.fmmu.get 0) || slotMaps direction (slave.fmmu.get 1) ||
        slotMaps direction (slave.fmmu.get 2)) := by
  have hslot (i : Fin 3) : (slave.fmmuSlot i).any (fun slot => slot.config.direction = direction) =
      slotMaps direction (slave.fmmu.get i) := by
    rw [fmmuSlot]
    rcases slave.fmmu.get i with _ | fmmu
    · rfl
    · by_cases hzero : fmmu.bitLength = 0 <;> simp [hzero, slotMaps]
  rw [mapsDirection, fmmuSlots, List.any_append, List.any_append, hslot, hslot, hslot,
    Bool.or_assoc]

lemma assignFmmus_eq {slave : Slave} (hslave : ∀ i, ∀ fmmu ∈ slave.fmmu.get i, fmmu.IsBytes)
    {address : ℕ} (hlt : address + slave.fmmuBytes < 2 ^ 32) :
    assignFmmus slave.fmmu (8 * address) =
      .ok ((slave.placeFmmus address).fmmu,
        ⟨8 * (address + slave.fmmuBytes), slave.mapsDirection .input,
          slave.mapsDirection .output⟩) := by
  rw [Slave.fmmuBytes] at hlt
  have h0 := assignFmmu_eq (hslave 0) address (by omega) false false
  have h1 := assignFmmu_eq (hslave 1) (address + slotBytes (slave.fmmu.get 0)) (by omega)
    (slotMaps .input (slave.fmmu.get 0)) (slotMaps .output (slave.fmmu.get 0))
  have h2 := assignFmmu_eq (hslave 2)
    (address + slotBytes (slave.fmmu.get 0) + slotBytes (slave.fmmu.get 1)) (by omega)
    (slotMaps .input (slave.fmmu.get 0) || slotMaps .input (slave.fmmu.get 1))
    (slotMaps .output (slave.fmmu.get 0) || slotMaps .output (slave.fmmu.get 1))
  rw [Bool.false_or, Bool.false_or] at h0
  refine bind_eq_ok.mpr ⟨_, h0, bind_eq_ok.mpr ⟨_, h1, bind_eq_ok.mpr ⟨_, h2, ?_⟩⟩⟩
  simp only [Slave.mapsDirection_eq, Slave.fmmuBytes, Slave.placeFmmus, Nat.add_assoc]

/-- Every direction that is mapped has a byte. -/
lemma Slave.wkc_le {slave : Slave} (hslave : ∀ i, ∀ fmmu ∈ slave.fmmu.get i, fmmu.IsBytes) :
    slave.wkc ≤ 3 * slave.fmmuBytes := by
  have hslot (direction : Direction) (i : Fin 3)
      (hmaps : slotMaps direction (slave.fmmu.get i) = true) :
      0 < slotBytes (slave.fmmu.get i) := by
    have hbits := eight_mul_slotBytes (hslave i)
    rcases hfmmu : slave.fmmu.get i with _ | fmmu
    · rw [hfmmu] at hmaps
      cases hmaps
    · rw [hfmmu] at hmaps hbits
      have hzero : fmmu.bitLength ≠ 0 := by
        simp only [slotMaps, Bool.and_eq_true, decide_eq_true_eq] at hmaps
        exact hmaps.1
      have : fmmu.bitLength.toNat ≠ 0 := fun h => hzero (UInt16.toNat_inj.mp h)
      simp only [Option.elim_some] at hbits
      omega
  have hmapped (direction : Direction) (hmaps : slave.mapsDirection direction = true) :
      0 < slave.fmmuBytes := by
    simp only [mapsDirection_eq, Bool.or_eq_true] at hmaps
    rw [fmmuBytes]
    rcases hmaps with (h | h) | h
    · have := hslot direction 0 h
      omega
    · have := hslot direction 1 h
      omega
    · have := hslot direction 2 h
      omega
  have hin := hmapped .input
  have hout := hmapped .output
  rw [wkc]
  split
  · have := hin ‹_›
    split <;> omega
  · split
    · have := hout ‹_›
      omega
    · omega

lemma FmmuScan.wkc_eq {slave : Slave} {bitAddress expectedWkc : ℕ}
    (hlt : expectedWkc + slave.wkc < 2 ^ 16) :
    FmmuScan.wkc ⟨bitAddress, slave.mapsDirection .input, slave.mapsDirection .output⟩ expectedWkc =
      .ok (expectedWkc + slave.wkc) := by
  simp only [Slave.wkc] at hlt ⊢
  cases hin : slave.mapsDirection .input <;> cases hout : slave.mapsDirection .output <;>
    simp only [hin, hout, if_true, if_false, Bool.false_eq_true] at hlt
  · rfl
  · exact addUpTo_eq_ok_iff.mpr ⟨hlt, rfl⟩
  · exact bind_eq_ok.mpr ⟨_, addUpTo_eq_ok_iff.mpr ⟨hlt, rfl⟩, rfl⟩
  · refine bind_eq_ok.mpr ⟨_, addUpTo_eq_ok_iff.mpr ⟨by omega, rfl⟩, ?_⟩
    exact addUpTo_eq_ok_iff.mpr ⟨by omega, rfl⟩

lemma assignSlots_eq {slots : List (Option Slave × SlaveConfig)}
    (hslots : ∀ slave ∈ slavesOf slots, ∀ i, ∀ fmmu ∈ slave.fmmu.get i, fmmu.IsBytes)
    (address expectedWkc : ℕ)
    (hlt : address + ((slavesOf slots).map Slave.fmmuBytes).sum < 2 ^ 32)
    (hwkc : expectedWkc + 3 * ((slavesOf slots).map Slave.fmmuBytes).sum < 2 ^ 16) :
    assignSlots slots (8 * address) expectedWkc =
      .ok (placeSlaves address slots, 8 * (address + ((slavesOf slots).map Slave.fmmuBytes).sum),
        expectedWkc + ((slavesOf slots).map Slave.wkc).sum) := by
  induction slots generalizing address expectedWkc with
  | nil => rfl
  | cons slot slots ih =>
      obtain ⟨slave | slave, config⟩ := slot
      · exact bind_eq_ok.mpr ⟨_, ih hslots _ _ hlt hwkc, rfl⟩
      · have hslave := hslots slave (List.mem_cons_self ..)
        have hrest : ∀ s ∈ slavesOf slots, ∀ i, ∀ fmmu ∈ s.fmmu.get i, fmmu.IsBytes :=
          fun s hs => hslots s (List.mem_cons_of_mem _ hs)
        have hsum : ((slavesOf ((some slave, config) :: slots)).map Slave.fmmuBytes).sum =
            slave.fmmuBytes + ((slavesOf slots).map Slave.fmmuBytes).sum := List.sum_cons
        have hsumWkc : ((slavesOf ((some slave, config) :: slots)).map Slave.wkc).sum =
            slave.wkc + ((slavesOf slots).map Slave.wkc).sum := List.sum_cons
        have hle := Slave.wkc_le hslave
        rw [hsum] at hlt hwkc
        rw [hsum, hsumWkc, ← Nat.add_assoc, ← Nat.add_assoc]
        refine bind_eq_ok.mpr ⟨_, assignFmmus_eq hslave (by omega), ?_⟩
        refine bind_eq_ok.mpr ⟨_, FmmuScan.wkc_eq (by omega), ?_⟩
        exact bind_eq_ok.mpr ⟨_, ih hrest _ _ (by omega) (by omega), rfl⟩

lemma Slave.sum_fmmuSlot (slave : Slave) (i : Fin 3) :
    ((slave.fmmuSlot i).map fun slot => slot.config.bytes).sum = slotBytes (slave.fmmu.get i) := by
  rw [fmmuSlot]
  rcases slave.fmmu.get i with _ | fmmu
  · rfl
  · by_cases hzero : fmmu.bitLength = 0
    · simp [hzero, slotBytes, FmmuConfig.bytes]
    · simp [hzero, slotBytes]

lemma Slave.sum_fmmuSlots (slave : Slave) :
    (slave.fmmuSlots.map fun slot => slot.config.bytes).sum = slave.fmmuBytes := by
  rw [fmmuSlots, List.map_append, List.map_append, List.sum_append, List.sum_append,
    slave.sum_fmmuSlot, slave.sum_fmmuSlot, slave.sum_fmmuSlot, fmmuBytes, Nat.add_assoc]

lemma sum_flatMap_fmmuSlots (slaves : List Slave) :
    ((slaves.flatMap Slave.fmmuSlots).map fun slot => slot.config.bytes).sum =
      (slaves.map Slave.fmmuBytes).sum := by
  induction slaves with
  | nil => rfl
  | cons slave slaves ih =>
      rw [List.flatMap_cons, List.map_append, List.sum_append, List.map_cons, List.sum_cons, ih,
        slave.sum_fmmuSlots]

/-- The first pass: the slots lie one after another. -/
lemma setLogicalAddressToFmmuConfig_eq {network : Network} (hbytes : network.FmmusAreBytes)
    (hsize : network.fmmuBytes.sum ≤ maxPduDatagram) :
    setLogicalAddressToFmmuConfig network =
      .ok ((network.fmmuBytes.sum, network.wkc),
        { network with slaves := placeSlaves logicalStartAddress.toNat network.slaves }) := by
  have hmax : maxPduDatagram = 1486 := rfl
  have hstart : logicalStartAddress.toNat = 4096 := rfl
  have hsum : network.fmmuBytes.sum = ((slavesOf network.slaves).map Slave.fmmuBytes).sum :=
    sum_flatMap_fmmuSlots _
  have hmul : mulUpTo 32 logicalStartAddress.toNat 8 = .ok (8 * logicalStartAddress.toNat) :=
    mulUpTo_eq_ok_iff.mpr ⟨by decide, rfl⟩
  have hslots := assignSlots_eq hbytes logicalStartAddress.toNat 0
    (by omega) (by omega)
  rw [Nat.zero_add, ← hsum] at hslots
  refine bind_eq_ok.mpr ⟨_, hmul, bind_eq_ok.mpr ⟨_, hslots, ?_⟩⟩
  simp only [Nat.mul_mod_right, if_true, Nat.mul_div_cancel_left _ (show 0 < 8 by decide),
    Nat.le_add_right, sub_of_le, Nat.add_sub_cancel_left]
  exact bind_eq_ok.mpr ⟨_, rfl, bind_eq_ok.mpr ⟨(), assert_eq_ok_iff.mpr hsize, rfl⟩⟩

/-! ## The registers -/

/-- The registers of slots that lie one after another. -/
def registersAt : ℕ → List FmmuSlot → List (List UInt8)
  | _, [] => []
  | address, slot :: slots =>
    slot.config.registerAt ⟨address, slot.config.bytes⟩ ::
      registersAt (address + slot.config.bytes) slots

/-- Their writes. -/
def writesAt (address : ℕ) (slots : List FmmuSlot) : List Access :=
  List.zipWith FmmuSlot.write slots (registersAt address slots)

lemma writesAt_append (address : ℕ) (slots slots' : List FmmuSlot) :
    writesAt address (slots ++ slots') =
      writesAt address slots ++
        writesAt (address + (slots.map fun slot => slot.config.bytes).sum) slots' := by
  induction slots generalizing address with
  | nil => rfl
  | cons slot slots ih =>
      have hrest := ih (address + slot.config.bytes)
      rw [Nat.add_assoc] at hrest
      rw [List.map_cons, List.sum_cons]
      exact congrArg (_ :: ·) hrest

/-- The whole bytes of a slot, and the last bit. -/
lemma FmmuConfig.IsBytes.byteLength_eq {fmmu : FmmuConfig} (h : fmmu.IsBytes) :
    fmmu.byteLength = .ok fmmu.bytes ∧ fmmu.endBit = .ok 7 := by
  obtain ⟨hbits, hstart⟩ := h
  have hlt := fmmu.bitLength.toNat_lt
  have hstart : fmmu.logicalBits.startBit.toNat = 0 := congrArg UInt8.toNat hstart
  have hadd : addUpTo 16 fmmu.logicalBits.bitLength.toNat fmmu.logicalBits.startBit.toNat =
      .ok fmmu.bitLength.toNat := by
    rw [hstart]
    exact addUpTo_eq_ok_iff.mpr ⟨hlt, rfl⟩
  constructor
  · refine bind_eq_ok.mpr ⟨_, hadd, ?_⟩
    rw [if_pos hbits, bytes]
  · refine bind_eq_ok.mpr ⟨_, hadd, ?_⟩
    rw [if_pos hbits]

/-- The body of the second pass writes the register of a slot that maps something. -/
lemma follows_configureSlot {slave placed : Slave} {i : Fin 3} {address : ℕ}
    (hslot : placed.fmmu.get i = placeSlot address (slave.fmmu.get i))
    (hinfo : placed.info = slave.info) (hbytes : ∀ fmmu ∈ slave.fmmu.get i, fmmu.IsBytes)
    (hlt : address < 2 ^ 32) :
    Method.Follows Access.Succeeds (configureSlot i) placed (writesAt address (slave.fmmuSlot i)) ()
      placed := by
  refine .bind_nil (Method.follows_get placed) ?_
  rw [hslot, Slave.fmmuSlot]
  rcases hfmmu : slave.fmmu.get i with _ | fmmu
  · exact Method.follows_pure () placed
  · have hisBytes := hbytes fmmu hfmmu
    by_cases hzero : fmmu.bitLength = 0
    · -- nothing is mapped, whether or not there is an address
      have hnone : fmmu.bytes = 0 := by simp [FmmuConfig.bytes, hzero]
      simp only [placeSlot, hzero, if_true]
      rcases fmmu.logicalAddress with _ | logicalAddress
      · exact Method.follows_pure () placed
      · refine .bind_nil (Method.follows_ofExec hisBytes.byteLength_eq.1 placed) ?_
        rw [if_pos hnone]
        exact Method.follows_pure () placed
    · simp only [placeSlot, hzero, if_false]
      have hplaced : ((fmmu.setLogicalAddress (some (.ofNat address))).setStartBit 0).IsBytes :=
        ⟨hisBytes.1, rfl⟩
      have hpos : ((fmmu.setLogicalAddress (some (.ofNat address))).setStartBit 0).bytes ≠ 0 := by
        have : fmmu.bitLength.toNat ≠ 0 := fun h => hzero (UInt16.toNat_inj.mp h)
        have := hisBytes.1
        show fmmu.bitLength.toNat / 8 ≠ 0
        omega
      have haddress : (UInt32.ofNat address).toNat = address := by
        rw [UInt32.toNat_ofNat', Nat.mod_eq_of_lt hlt]
      have hregister := fmmu.register_eq (.ofNat address) fmmu.bytes
      rw [haddress] at hregister
      refine .bind_nil (Method.follows_ofExec hplaced.byteLength_eq.1 placed) ?_
      rw [if_neg hpos]
      refine .bind_nil (Method.follows_ofExec hplaced.byteLength_eq.2 placed) ?_
      refine .bind_nil (Method.follows_ofExec hregister placed) ?_
      have hwrite := follows_writeRegister .setFmmuRegister
        (FmmuRegister.address + .ofNat i.val * .ofNat FmmuRegister.size)
        (fmmu.registerAt ⟨address, fmmu.bytes⟩) placed
      rw [hinfo] at hwrite
      exact hwrite

lemma follows_configureFmmuSlave {slave : Slave}
    (hbytes : ∀ i, ∀ fmmu ∈ slave.fmmu.get i, fmmu.IsBytes) (address : ℕ)
    (hlt : address + slave.fmmuBytes < 2 ^ 32) (config : SlaveConfig) :
    Method.Follows Access.Succeeds (configureFmmuSlave config) (slave.placeFmmus address)
      (writesAt address slave.fmmuSlots) () (slave.placeFmmus address) := by
  rw [Slave.fmmuBytes] at hlt
  rw [Slave.fmmuSlots, writesAt_append, writesAt_append, slave.sum_fmmuSlot, slave.sum_fmmuSlot]
  refine .bind (follows_configureSlot rfl rfl (hbytes 0) (by omega)) ?_
  refine .bind (follows_configureSlot rfl rfl (hbytes 1) (by omega)) ?_
  exact follows_configureSlot rfl rfl (hbytes 2) (by omega)

/-- The second pass over the slots of the first one writes all registers, in order. -/
lemma script_forSlots {slots : List (Option Slave × SlaveConfig)}
    (hslots : ∀ slave ∈ slavesOf slots, ∀ i, ∀ fmmu ∈ slave.fmmu.get i, fmmu.IsBytes)
    (address : ℕ) (hlt : address + ((slavesOf slots).map Slave.fmmuBytes).sum < 2 ^ 32) :
    Program.Script Access.Succeeds (fun r => r = (.ok (), placeSlaves address slots))
      (fun r => ∃ e, r.1 = .error e)
      (writesAt address ((slavesOf slots).flatMap Slave.fmmuSlots))
      (forSlots configureFmmuSlave (placeSlaves address slots)) := by
  induction slots generalizing address with
  | nil => exact ⟨rfl, rfl⟩
  | cons slot slots ih =>
      obtain ⟨slave | slave, config⟩ := slot
      · have hrest := ih hslots address hlt
        rw [← List.append_nil (writesAt _ _)]
        refine hrest.bind (fun r hr => ?_) (fun r hr => ?_)
        · subst hr
          exact ⟨rfl, rfl⟩
        · obtain ⟨e, he⟩ := hr
          exact ⟨e, he⟩
      · have hslave := hslots slave (List.mem_cons_self ..)
        have hrest : ∀ s ∈ slavesOf slots, ∀ i, ∀ fmmu ∈ s.fmmu.get i, fmmu.IsBytes :=
          fun s hs => hslots s (List.mem_cons_of_mem _ hs)
        have hsum : ((slavesOf ((some slave, config) :: slots)).map Slave.fmmuBytes).sum =
            slave.fmmuBytes + ((slavesOf slots).map Slave.fmmuBytes).sum := List.sum_cons
        rw [hsum] at hlt
        have hcons : (slavesOf ((some slave, config) :: slots)).flatMap Slave.fmmuSlots =
            slave.fmmuSlots ++ (slavesOf slots).flatMap Slave.fmmuSlots := List.flatMap_cons
        rw [hcons, writesAt_append, slave.sum_fmmuSlots]
        have hfirst := follows_configureFmmuSlave hslave address (by omega) config
        refine Program.Script.bind hfirst (fun r hr => ?_) (fun r hr => ?_)
        · subst hr
          rw [← List.append_nil (writesAt (address + slave.fmmuBytes) _)]
          refine (ih hrest _ (by omega)).bind (fun r hr => ?_) (fun r hr => ?_)
          · subst hr
            exact ⟨rfl, rfl⟩
          · obtain ⟨e, he⟩ := hr
            exact ⟨e, he⟩
        · obtain ⟨result, slave'⟩ := r
          obtain ⟨e, rfl⟩ : ∃ e, result = .error e := hr
          exact ⟨e, rfl⟩

lemma map_mappedBytes_registersAt {slots : List FmmuSlot} {address : ℕ}
    (hlt : address + (slots.map fun slot => slot.config.bytes).sum < 2 ^ 32) :
    (registersAt address slots).map mappedBytes =
      place address (slots.map fun slot => slot.config.bytes) := by
  induction slots generalizing address with
  | nil => rfl
  | cons slot slots ih =>
      rw [List.map_cons, List.sum_cons] at hlt
      have hlength : slot.config.bytes < 2 ^ 16 := by
        have := slot.config.bitLength.toNat_lt
        rw [FmmuConfig.bytes]
        omega
      rw [registersAt, List.map_cons, List.map_cons, place, ih (by omega),
        slot.config.mappedBytes_registerAt ⟨address, slot.config.bytes⟩
          (show address < 2 ^ 32 by omega) hlength]

lemma forall₂_registersAt {slots : List FmmuSlot} (hbytes : ∀ slot ∈ slots, slot.config.IsBytes)
    {address : ℕ} (hlt : address + (slots.map fun slot => slot.config.bytes).sum < 2 ^ 32) :
    List.Forall₂ RegisterOf slots (registersAt address slots) := by
  induction slots generalizing address with
  | nil => exact .nil
  | cons slot slots ih =>
      rw [List.map_cons, List.sum_cons] at hlt
      refine .cons (registerOf_registerAt slot (hbytes slot (List.mem_cons_self ..)) (by omega)) ?_
      exact ih (fun s hs => hbytes s (List.mem_cons_of_mem _ hs)) (by omega)

lemma sum_length_place (start : ℕ) (ns : List ℕ) :
    ((place start ns).map Range.length).sum = ns.sum := by
  induction ns generalizing start with
  | nil => rfl
  | cons n ns ih => rw [place, List.map_cons, List.sum_cons, ih, List.sum_cons]

lemma mapsImage_registersAt {slots : List FmmuSlot} (hbytes : ∀ slot ∈ slots, slot.config.IsBytes)
    (hlt : logicalStartAddress.toNat + (slots.map fun slot => slot.config.bytes).sum < 2 ^ 32) :
    MapsImage slots (registersAt logicalStartAddress.toNat slots)
      (slots.map fun slot => slot.config.bytes).sum := by
  have hmap := map_mappedBytes_registersAt hlt
  refine ⟨forall₂_registersAt hbytes hlt, ?_, ?_, ?_, ?_⟩ <;> rw [hmap]
  · intro r hr
    rcases hslots : slots.map fun slot => slot.config.bytes with _ | ⟨n, ns⟩
    · rw [hslots] at hr
      cases hr
    · rw [hslots] at hr
      cases hr
      rfl
  · intro k r s hr hs
    exact stop_eq_start_place hr hs
  · exact pairwise_disjoint_place _ _
  · exact sum_length_place _ _

/-- The network with the logical addresses. -/
def Network.placeFmmus (network : Network) : Network :=
  { network with slaves := placeSlaves logicalStartAddress.toNat network.slaves }

/-- Both passes: one write for every FMMU that maps something. -/
lemma follows_configureFmmu {network : Network} (hbytes : network.FmmusAreBytes)
    (hsize : network.fmmuBytes.sum ≤ maxPduDatagram) :
    Method.Follows Access.Succeeds configureFmmu network
      (writesAt logicalStartAddress.toNat network.fmmuSlots) (network.fmmuBytes.sum, network.wkc)
      network.placeFmmus := by
  have hmax : maxPduDatagram = 1486 := rfl
  have hstart : logicalStartAddress.toNat = 4096 := rfl
  have hsum : network.fmmuBytes.sum = ((slavesOf network.slaves).map Slave.fmmuBytes).sum :=
    sum_flatMap_fmmuSlots _
  have hloop := script_forSlots hbytes logicalStartAddress.toNat (by omega)
  have hslaves : Method.Follows Access.Succeeds (forSlaves configureFmmuSlave) network.placeFmmus
      (writesAt logicalStartAddress.toNat network.fmmuSlots) () network.placeFmmus := by
    rw [← List.append_nil (writesAt _ _)]
    refine Program.Script.bind hloop (fun r hr => ?_) (fun r hr => ?_)
    · subst hr
      exact ⟨rfl, rfl⟩
    · obtain ⟨e, he⟩ := hr
      exact ⟨e, he⟩
  refine .bind_nil (Method.follows_get network) ?_
  refine .bind_nil (Method.follows_ofExec (setLogicalAddressToFmmuConfig_eq hbytes hsize) network) ?_
  refine .bind_nil (Method.follows_modify _ network) ?_
  rw [← List.append_nil (writesAt _ _)]
  exact .bind hslaves (Method.follows_pure _ _)

lemma Network.isBytes_of_mem_fmmuSlots {network : Network} (hbytes : network.FmmusAreBytes)
    {slot : FmmuSlot} (hslot : slot ∈ network.fmmuSlots) : slot.config.IsBytes := by
  obtain ⟨slave, hslave, hmem⟩ := List.mem_flatMap.mp hslot
  have hone (i : Fin 3) (h : slot ∈ slave.fmmuSlot i) : slot.config.IsBytes := by
    rw [Slave.fmmuSlot] at h
    rcases hfmmu : slave.fmmu.get i with _ | fmmu
    · rw [hfmmu] at h
      cases h
    · rw [hfmmu] at h
      by_cases hzero : fmmu.bitLength = 0
      · simp [hzero] at h
      · simp only [hzero, if_false, List.mem_singleton] at h
        subst h
        exact hbytes slave hslave i fmmu hfmmu
  rw [Slave.fmmuSlots, List.mem_append, List.mem_append] at hmem
  rcases hmem with h | h | h
  · exact hone 0 h
  · exact hone 1 h
  · exact hone 2 h

/-- **The FMMUs map the process data image.**  For every network whose FMMUs are whole bytes and
fit into a datagram there are registers that map the image, and in every environment the writes are
those of these registers: a part of them if a call fails, all of them if the size and the expected
working counter are returned, and that is so if all calls succeed. -/
theorem configureFmmu_mapsImage {network : Network} (hbytes : network.FmmusAreBytes)
    (hsize : network.fmmuBytes.sum ≤ maxPduDatagram) :
    ∃ registers, MapsImage network.fmmuSlots registers network.fmmuBytes.sum ∧
      ∀ {σ : Type} (h : σ → (access : Access) → access.Answer × σ) (w : σ),
        (configureFmmu network).asked h w <+:
            List.zipWith FmmuSlot.write network.fmmuSlots registers ∧
        (∀ imageSize expectedWkc network' w',
          (configureFmmu network).run h w =
              (.returned (.ok (imageSize, expectedWkc), network'), w') →
            (configureFmmu network).asked h w =
                List.zipWith FmmuSlot.write network.fmmuSlots registers ∧
              imageSize = network.fmmuBytes.sum ∧ expectedWkc = network.wkc) ∧
        ((∀ w (access : Access), access.Succeeds (h w access).1) → ∃ network' w',
          (configureFmmu network).run h w =
            (.returned (.ok (network.fmmuBytes.sum, network.wkc), network'), w')) := by
  have hmax : maxPduDatagram = 1486 := rfl
  have hstart : logicalStartAddress.toNat = 4096 := rfl
  have hfollows := follows_configureFmmu hbytes hsize
  refine ⟨registersAt logicalStartAddress.toNat network.fmmuSlots,
    mapsImage_registersAt (fun slot => network.isBytes_of_mem_fmmuSlots hbytes) ?_,
    fun h w => ⟨?_, ?_, ?_⟩⟩
  · have : (network.fmmuSlots.map fun slot => slot.config.bytes).sum ≤ maxPduDatagram := hsize
    omega
  · exact (Program.Script.asked hfollows w).1
  · intro imageSize expectedWkc network' w' hrun
    rcases (Program.Script.asked hfollows w).2 _ _ hrun with ⟨hall, hresult⟩ | ⟨e, he⟩
    · cases hresult
      exact ⟨hall, rfl, rfl⟩
    · cases he
  · intro hgood
    obtain ⟨result, w', hrun, rfl, -⟩ :=
      Program.Script.run_of_good hfollows (fun access _ w => hgood w access) w
    exact ⟨_, w', hrun⟩

/-- Two slaves: two bytes of outputs, and a byte of inputs with the state of the mailbox. -/
def twoSlaves : Network where
  slaves :=
    [(some { Slave.default with
        info := { SlaveInfo.default with configuredAddress := 1 }
        fmmu := #v[some (.new 0x1800 16 .output), some (.new 0x1C00 0 .input), none] }, .default),
      (some { Slave.default with
        info := { SlaveInfo.default with configuredAddress := 2 }
        fmmu := #v[none, some (.new 0x1800 8 .input), some (.new 0x80D 8 .input)] }, .default)]
  pushCount := 2

/-- Four bytes are mapped, and both slaves answer to both directions. -/
theorem twoSlaves_mapsImage :
    ∃ registers, MapsImage twoSlaves.fmmuSlots registers 4 ∧
      ∃ network' w', (configureFmmu twoSlaves).run (fun w access => (Access.okWith [] access, w)) () =
        (.returned (.ok (4, 3), network'), w') := by
  have hbytes : twoSlaves.FmmusAreBytes := by
    intro slave hslave i fmmu hfmmu
    simp only [twoSlaves, List.filterMap_cons, List.filterMap_nil, List.mem_cons,
      List.not_mem_nil, or_false] at hslave
    rcases hslave with rfl | rfl <;> fin_cases i <;> cases hfmmu <;> exact ⟨rfl, rfl⟩
  obtain ⟨registers, hmaps, hruns⟩ := configureFmmu_mapsImage hbytes (by decide)
  refine ⟨registers, hmaps, ?_⟩
  exact (hruns (fun w access => (Access.okWith [] access, w)) ()).2.2
    fun _ access => Access.succeeds_okWith [] access

end EtherCat
