import EtherCat.Master.FmmuLayout
import EtherCat.Master.PdoAgreement
import EtherCat.Master.PdoLayout
import EtherCat.Master.SlaveLoop
import Mathlib.Algebra.Order.BigOperators.Group.List
import Mathlib.Algebra.Order.Ring.Nat

/-!
# When the configuration of the image completes

`configure_pdo_image` goes over the slaves four times.  It writes the configured process data objects
into the dictionaries, reads from them how much process data there is, assigns the logical addresses
of the FMMUs and those of the entries.  The length of an FMMU is the process data that was read,
rounded up to bytes, and the last pass asserts that it is the sum of the configured lengths: the
configuration completes if nothing is rounded (`configurePdoImage_completes_iff`).
-/

namespace EtherCat

open Rust Rust.Exec Rust.Method Configure

/-! ## A configuration that agrees with the dictionaries -/

/-- The bits of all entries of a direction. -/
def SlaveConfig.bits (config : SlaveConfig) (direction : Direction) : ℕ :=
  (bitLengths (config.entries direction.fmmuSlot)).sum

/-- A direction with process data memory and a sync manager. -/
def SlaveInfo.Maps (info : SlaveInfo) (direction : Direction) : Prop :=
  info.pdoStartAddress.isSome = true ∧ (direction.smNumber info).isSome = true

instance (info : SlaveInfo) (direction : Direction) : Decidable (info.Maps direction) :=
  inferInstanceAs (Decidable (_ ∧ _))

/-- The bits of a direction, none without a sync manager. -/
def SlaveInfo.bits (info : SlaveInfo) (config : SlaveConfig) (direction : Direction) : ℕ :=
  if (direction.smNumber info).isSome then config.bits direction else 0

/-- The bytes that hold them. -/
def SlaveInfo.bytes (info : SlaveInfo) (config : SlaveConfig) (direction : Direction) : ℕ :=
  (info.bits config direction + 7) / 8

/-- **The entries match the dictionary**: once it is written, the dictionary reports the configured
bits for every direction. -/
structure EntriesMatch (od : Dictionary) (info : SlaveInfo) (config : SlaveConfig) : Prop where
  countsOutput : CountsFit config.outputPdoMappings
  countsInput : CountsFit config.inputPdoMappings
  channels : ∃ n, (od.withPdoConfig info config).HasByte 0x1C00 0 n
  bits : ∀ direction,
    (od.withPdoConfig info config).DirectionBits info direction (info.bits config direction)

/-- A slave as the initialisation and earlier configurations leave it: an FMMU is set only for a
direction that is mapped, and the third one maps whole bytes. -/
structure Slave.Prepared (slave : Slave) : Prop where
  directions : ∀ direction : Direction, ¬ slave.info.Maps direction →
    slave.fmmu.get direction.fmmuSlot = none
  mailbox : ∀ fmmu ∈ slave.fmmu.get 2, fmmu.IsBytes

/-- The bytes of the image that a slave has. -/
def Slave.imageBytes (slave : Slave) (config : SlaveConfig) : ℕ :=
  (if slave.info.pdoStartAddress.isSome then
    slave.info.bytes config .output + slave.info.bytes config .input else 0) +
      slotBytes (slave.fmmu.get 2)

/-- The bytes of the image. -/
def imageBytes (slots : List (Option Slave × SlaveConfig)) : ℕ :=
  (slots.map fun slot => slot.1.elim 0 fun slave => slave.imageBytes slot.2).sum

/-- The memory of a slave is enough: its dictionary has four sync manager channels, and the three
buffers of both directions fit behind the start address. -/
structure MemoryFits (od : Dictionary) (info : SlaveInfo) (config : SlaveConfig) : Prop where
  channels : info.pdoStartAddress.isSome → od.HasChannels
  ends : ∀ ramAddress, info.pdoStartAddress = some ramAddress →
    ramAddress.toNat + 3 * info.bytes config .output + 3 * info.bytes config .input < 2 ^ 16

/-- **No direction has a remainder**: the bits of each that is mapped are whole bytes. -/
def SlaveInfo.WholeBytes (info : SlaveInfo) (config : SlaveConfig) : Prop :=
  ∀ direction, info.Maps direction → config.bits direction % 8 = 0

/-! ## First pass: the dictionaries are written -/

/-- The slaves keep everything but their counts, and every dictionary holds the configuration. -/
lemma run_setPdoConfigToOd {slots : List (Option Slave × SlaveConfig)} (ods : Dictionaries)
    (hdistinct : (slavesOf slots).Pairwise fun a b => a.info.slaveAddress ≠ b.info.slaveAddress)
    (hfits : ∀ slave config, (some slave, config) ∈ slots →
      CountsFit config.outputPdoMappings ∧ CountsFit config.inputPdoMappings) :
    ∃ slots' ods', SlotsRel (fun _ => OnlyCounts) slots slots' ∧
      (forSlots setPdoConfigToOdSlave slots).run Dictionaries.answer ods =
        (.returned (.ok (), slots'), ods') ∧
      (∀ slave config, (some slave, config) ∈ slots → ods' slave.info.slaveAddress =
        (ods slave.info.slaveAddress).withPdoConfig slave.info config) ∧
      ∀ address, (∀ slave ∈ slavesOf slots, slave.info.slaveAddress ≠ address) →
        ods' address = ods address := by
  induction slots generalizing ods with
  | nil => exact ⟨[], ods, .nil, rfl, fun _ _ h => (by cases h), fun _ _ => rfl⟩
  | cons slot slots ih =>
      have hrest := fun slave config hmem => hfits slave config (List.mem_cons_of_mem slot hmem)
      obtain ⟨slave | slave, config⟩ := slot
      · obtain ⟨slots', ods', hrel, hrun, hwritten, hkept⟩ := ih ods hdistinct hrest
        refine ⟨(none, config) :: slots', ods', .cons ⟨rfl, .none⟩ hrel, run_forSlots_none hrun,
          fun slave config hmem => ?_, hkept⟩
        rcases List.mem_cons.mp hmem with heq | hmem
        · cases heq
        · exact hwritten slave config hmem
      · obtain ⟨hne, hdistinct⟩ := List.pairwise_cons.mp hdistinct
        obtain ⟨hout, hin⟩ := hfits slave config (List.mem_cons_self ..)
        obtain ⟨_, slave', ⟨hbody, -⟩, hcounts⟩ :=
          writesTo_setPdoConfigToOdSlave hout hin slave _ ods rfl
        obtain ⟨slots', ods', hrel, hrun, hwritten, hkept⟩ := ih _ hdistinct hrest
        refine ⟨(some slave', config) :: slots', ods', .cons ⟨rfl, .some hcounts⟩ hrel,
          run_forSlots_some hbody hrun, fun slave₁ config₁ hmem => ?_, fun address haddress => ?_⟩
        · rcases List.mem_cons.mp hmem with heq | hmem
          · cases heq
            rw [hkept _ fun s hs => (hne s hs).symm, Function.update_self]
            rfl
          · rw [hwritten slave₁ config₁ hmem,
              Function.update_of_ne (hne slave₁ (mem_slavesOf.mpr ⟨config₁, hmem⟩)).symm]
        · rw [hkept address fun s hs => haddress s (List.mem_cons_of_mem _ hs),
            Function.update_of_ne (haddress slave (List.mem_cons_self ..)).symm]

/-! ## Second pass: the sync managers are set up -/

section

variable {σ : Type} {h : σ → (access : Access) → access.Answer × σ} {w : σ} {info : SlaveInfo}
  {od : Dictionary}

/-- With fewer than four channels the assertion fails. -/
lemma panics_setPdoToSmSlave (hserves : Serves h w info od) {n : UInt8}
    (hbyte : od.HasByte 0x1C00 0 n) (hchannels : ¬ od.HasChannels) {ramAddress : UInt16}
    (hstart : info.pdoStartAddress = some ramAddress) {slave : Slave} (hslave : slave.info = info)
    (config : SlaveConfig) : Panics h (setPdoToSmSlave config) slave w := by
  have hlt : ¬ 4 ≤ n := fun hle => hchannels ⟨n, hle, hbyte⟩
  have hbroken : od.channels = .broken := by
    rw [Dictionary.channels, hbyte.firstByte_eq, Reading.value_bind, assert, check, if_neg hlt]
    rfl
  have hpanics : Panics h (setPdoToSmUtility .output ramAddress) slave w := by
    have hread := reads_readChannels hserves hslave
    rw [hbroken] at hread
    rw [setPdoToSmUtility_eq]
    exact Panics.bind hread _
  refine (returns_get slave w).bind_panics ?_
  rw [hslave, hstart]
  exact hpanics.bind _

end

/-- **A slave after the second pass**: the FMMU of each mapped direction has its bytes. -/
structure SetUp (config : SlaveConfig) (slave slave' : Slave) : Prop where
  info : slave'.info = slave.info
  small : slave.info.pdoStartAddress.isSome →
    ∀ direction, 8 * slave.info.bytes config direction < 2 ^ 16
  mapped : ∀ direction, slave.info.Maps direction → ∃ address,
    slave'.fmmu.get direction.fmmuSlot =
      some (.new address (.ofNat (8 * slave.info.bytes config direction)) direction)
  unmapped : ∀ direction : Direction, ¬ slave.info.Maps direction →
    slave'.fmmu.get direction.fmmuSlot = none
  mailbox : slave'.fmmu.get 2 = slave.fmmu.get 2
  isBytes : ∀ fmmu ∈ slave.fmmu.get 2, fmmu.IsBytes

lemma setUp_withProcessData {config : SlaveConfig} {slave slave' : Slave} {ramAddress : UInt16}
    (hprepared : slave.Prepared) (hstart : slave.info.pdoStartAddress = some ramAddress)
    (hlt : ∀ direction, 8 * slave.info.bytes config direction < 2 ^ 16)
    (hcounts : OnlyCounts (slave.withProcessData ramAddress (slave.info.bits config .output)
      (slave.info.bits config .input)) slave') : SetUp config slave slave' := by
  have hmaps (direction : Direction) :
      slave.info.Maps direction ↔ (direction.smNumber slave.info).isSome := by
    rw [SlaveInfo.Maps, hstart]
    simp
  have hbits (direction : Direction) : narrowed (slave.info.bits config direction) * 8 =
      .ofNat (8 * slave.info.bytes config direction) := by
    have := hlt direction
    refine UInt16.toNat_inj.mp ?_
    rw [UInt16.toNat_mul, toNat_narrowed this, UInt16.toNat_ofNat', SlaveInfo.bytes, Nat.mul_comm]
    rfl
  have hfmmu (i : Fin 3) : slave'.fmmu.get i = (slave.withProcessData ramAddress
      (slave.info.bits config .output) (slave.info.bits config .input)).fmmu.get i := by
    obtain ⟨count, rfl⟩ := hcounts
    rfl
  have hget (direction : Direction) : ∃ address, slave'.fmmu.get direction.fmmuSlot =
      if (direction.smNumber slave.info).isSome then
        some (.new address (.ofNat (8 * slave.info.bytes config direction)) direction)
      else slave.fmmu.get direction.fmmuSlot := by
    rw [hfmmu, Slave.withProcessData, Slave.get_withDirection, Slave.get_withDirection,
      Slave.info_withDirection, hbits, hbits]
    cases direction
    · exact ⟨ramAddress + narrowed (slave.info.bits config .output) * 3, by
        simp [Direction.fmmuSlot]⟩
    · exact ⟨ramAddress, by simp [Direction.fmmuSlot]⟩
  refine ⟨?_, fun _ => hlt, fun direction hmap => ?_, fun direction hmap => ?_, ?_,
    hprepared.mailbox⟩
  · rw [hcounts.info, Slave.withProcessData, Slave.info_withDirection, Slave.info_withDirection]
  · obtain ⟨address, hslot⟩ := hget direction
    exact ⟨address, hslot.trans (if_pos ((hmaps direction).mp hmap))⟩
  · obtain ⟨address, hslot⟩ := hget direction
    rw [hslot, if_neg fun hsm => hmap ((hmaps direction).mpr hsm)]
    exact hprepared.directions direction hmap
  · rw [hfmmu, Slave.withProcessData, Slave.get_withDirection, Slave.get_withDirection]
    simp [Direction.fmmuSlot]

/-- The body for a slave: it returns if the memory is enough. -/
lemma run_setPdoToSmSlave {σ : Type} {h : σ → (access : Access) → access.Answer × σ} {w : σ}
    {od : Dictionary} (config : SlaveConfig) {slave : Slave} (hserves : Serves h w slave.info od)
    (hchannels : ∃ n, od.HasByte 0x1C00 0 n)
    (hbits : ∀ direction, od.DirectionBits slave.info direction (slave.info.bits config direction))
    (hprepared : slave.Prepared)
    (hlt : slave.info.pdoStartAddress.isSome →
      ∀ direction, 8 * slave.info.bytes config direction < 2 ^ 16) :
    (MemoryFits od slave.info config → ∃ slave', SetUp config slave slave' ∧
      (setPdoToSmSlave config slave).run h w = (.returned (.ok (), slave'), w)) ∧
    (¬ MemoryFits od slave.info config → Panics h (setPdoToSmSlave config) slave w) := by
  rcases hstart : slave.info.pdoStartAddress with _ | ramAddress
  · have hnone (direction : Direction) : ¬ slave.info.Maps direction := by
      rw [SlaveInfo.Maps, hstart]
      simp
    refine ⟨fun _ => ⟨slave, ⟨rfl, hlt, fun direction hmap => absurd hmap (hnone direction),
      hprepared.directions, rfl, hprepared.mailbox⟩, ?_⟩, fun hfits => absurd ⟨?_, ?_⟩ hfits⟩
    · have hbody : Returns h (setPdoToSmSlave config) slave w [] () slave w := by
        refine (returns_get slave w).bind_nil ?_
        rw [hstart]
        exact returns_pure () slave w
      exact hbody.1
    · intro hsome
      rw [hstart] at hsome
      cases hsome
    · intro ramAddress hsome
      rw [hstart] at hsome
      cases hsome
  · have hlt := hlt (by rw [hstart]; rfl)
    by_cases hfour : od.HasChannels
    · obtain ⟨accesses, slave', hcounts, -, hreturns, hpanics⟩ := returns_bothDirections hserves
        hfour hstart (hbits .output) (hbits .input) rfl config
      have hboth := bothFit_iff ramAddress (hlt .output) (hlt .input)
      refine ⟨fun hfits => ⟨slave', setUp_withProcessData hprepared hstart hlt hcounts,
        (hreturns (hboth.mpr (hfits.ends ramAddress hstart))).1⟩, fun hfits => hpanics fun hfit => ?_⟩
      refine hfits ⟨fun _ => hfour, fun ramAddress' hstart' => ?_⟩
      rw [hstart] at hstart'
      cases hstart'
      exact hboth.mp hfit
    · obtain ⟨n, hbyte⟩ := hchannels
      exact ⟨fun hfits => absurd (hfits.channels (by rw [hstart]; rfl)) hfour,
        fun _ => panics_setPdoToSmSlave hserves hbyte hfour hstart rfl config⟩

/-! ## Third pass: the FMMUs get their addresses -/

namespace SetUp

variable {config : SlaveConfig} {slave slave' : Slave}

lemma slotBytes_direction (h : SetUp config slave slave') (direction : Direction) :
    slotBytes (slave'.fmmu.get direction.fmmuSlot) =
      if slave.info.pdoStartAddress.isSome then slave.info.bytes config direction else 0 := by
  by_cases hmap : slave.info.Maps direction
  · obtain ⟨address, hslot⟩ := h.mapped direction hmap
    have hlength : (UInt16.ofNat (8 * slave.info.bytes config direction)).toNat =
        8 * slave.info.bytes config direction := by
      rw [UInt16.toNat_ofNat', Nat.mod_eq_of_lt (h.small hmap.1 direction)]
    rw [hslot, if_pos hmap.1]
    show (UInt16.ofNat (8 * slave.info.bytes config direction)).toNat / 8 = _
    omega
  · rw [h.unmapped direction hmap]
    split
    · next hstart =>
        have hnone : ¬ (direction.smNumber slave.info).isSome = true := fun hsm => hmap ⟨hstart, hsm⟩
        rw [SlaveInfo.bytes, SlaveInfo.bits, if_neg hnone]
        rfl
    · rfl

lemma fmmuBytes_eq (h : SetUp config slave slave') :
    slave'.fmmuBytes = slave.imageBytes config := by
  have hout := h.slotBytes_direction .output
  have hin := h.slotBytes_direction .input
  simp only [Direction.fmmuSlot] at hout hin
  rw [Slave.fmmuBytes, Slave.imageBytes, hout, hin, h.mailbox]
  split <;> rfl

lemma forall_isBytes (h : SetUp config slave slave') :
    ∀ i, ∀ fmmu ∈ slave'.fmmu.get i, fmmu.IsBytes := by
  have hdirection (direction : Direction) :
      ∀ fmmu ∈ slave'.fmmu.get direction.fmmuSlot, fmmu.IsBytes := by
    intro fmmu hfmmu
    by_cases hmap : slave.info.Maps direction
    · obtain ⟨address, hslot⟩ := h.mapped direction hmap
      rw [hslot] at hfmmu
      cases hfmmu
      refine ⟨?_, rfl⟩
      show (UInt16.ofNat (8 * slave.info.bytes config direction)).toNat % 8 = 0
      have := h.small hmap.1 direction
      rw [UInt16.toNat_ofNat']
      omega
    · rw [h.unmapped direction hmap] at hfmmu
      cases hfmmu
  intro i
  match i with
  | 0 => exact hdirection .output
  | 1 => exact hdirection .input
  | 2 =>
      rw [h.mailbox]
      exact h.isBytes

end SetUp

/-- Every slave gets a range of the image. -/
lemma slotsRel_placeSlaves (bound : ℕ) (slots : List (Option Slave × SlaveConfig)) (address : ℕ)
    (hlt : address + ((slavesOf slots).map Slave.fmmuBytes).sum ≤ bound) :
    SlotsRel (fun _ slave slave' => ∃ a, a + slave.fmmuBytes ≤ bound ∧ slave' = slave.placeFmmus a)
      slots (placeSlaves address slots) := by
  induction slots generalizing address with
  | nil => exact .nil
  | cons slot slots ih =>
      obtain ⟨slave | slave, config⟩ := slot
      · exact .cons ⟨rfl, .none⟩ (ih address hlt)
      · have hsum : ((slavesOf ((some slave, config) :: slots)).map Slave.fmmuBytes).sum =
            slave.fmmuBytes + ((slavesOf slots).map Slave.fmmuBytes).sum := List.sum_cons
        rw [hsum] at hlt
        refine .cons ⟨rfl, .some ⟨address, by omega, rfl⟩⟩ (ih _ (by omega))

lemma succeeds_of_mem_writesAt {address : ℕ} {slots : List FmmuSlot} {access : Access}
    (haccess : access ∈ writesAt address slots) (ods : Dictionaries) :
    access.Succeeds (ods.answer access).1 := by
  induction slots generalizing address with
  | nil => cases haccess
  | cons slot slots ih =>
      rcases List.mem_cons.mp haccess with rfl | hmem
      · rfl
      · exact ih hmem

/-! ## Fourth pass: the entries get their addresses -/

lemma exists_assignEntries (entries : List PdoEntry) (totalBits : ℕ)
    (hlt : totalBits + (bitLengths entries).sum < 2 ^ 64) :
    ∃ entries', assignEntries entries totalBits =
      .ok (entries', totalBits + (bitLengths entries).sum) := by
  induction entries generalizing totalBits with
  | nil => exact ⟨[], rfl⟩
  | cons entry entries ih =>
      have hsum : (bitLengths (entry :: entries)).sum =
          entry.bitLength.toNat + (bitLengths entries).sum := List.sum_cons
      rw [hsum, ← Nat.add_assoc] at hlt ⊢
      obtain ⟨entries', hentries⟩ := ih _ hlt
      have hadd : addUpTo 64 totalBits (entry.assign totalBits).bitLength.toNat =
          .ok (totalBits + entry.bitLength.toNat) :=
        addUpTo_eq_ok_iff.mpr ⟨by rw [PdoEntry.bitLength_assign]; omega, rfl⟩
      exact ⟨_, bind_eq_ok.mpr ⟨_, hadd, bind_eq_ok.mpr ⟨_, hentries, rfl⟩⟩⟩

lemma exists_assignMappings (pdoMaps : List PdoMapping) (totalBits : ℕ)
    (hlt : totalBits + (bitLengths (pdoMaps.flatMap PdoMapping.entries)).sum < 2 ^ 64) :
    ∃ pdoMaps', assignMappings pdoMaps totalBits =
      .ok (pdoMaps', totalBits + (bitLengths (pdoMaps.flatMap PdoMapping.entries)).sum) := by
  induction pdoMaps generalizing totalBits with
  | nil => exact ⟨[], rfl⟩
  | cons pdoMap pdoMaps ih =>
      have hsum : (bitLengths ((pdoMap :: pdoMaps).flatMap PdoMapping.entries)).sum =
          (bitLengths pdoMap.entries).sum +
            (bitLengths (pdoMaps.flatMap PdoMapping.entries)).sum := by
        rw [List.flatMap_cons, bitLengths, List.map_append, List.sum_append]
        rfl
      rw [hsum, ← Nat.add_assoc] at hlt ⊢
      obtain ⟨entries, hentries⟩ := exists_assignEntries pdoMap.entries totalBits (by omega)
      obtain ⟨pdoMaps', hmaps⟩ := ih _ hlt
      exact ⟨_, bind_eq_ok.mpr ⟨_, hentries, bind_eq_ok.mpr ⟨_, hmaps, rfl⟩⟩⟩

/-- **One direction**: the assertion holds if the bits are whole bytes. -/
lemma exists_assignDirection_iff {slave : Slave} {i : Fin 2} {config : SlaveConfig}
    {direction : Direction} {physicalAddress : UInt16} {address bytes : ℕ}
    (hslot : slave.fmmu.get i.castSucc =
      placeSlot address (some (.new physicalAddress (.ofNat (8 * bytes)) direction)))
    (hbytes : bytes = ((bitLengths (config.entries i)).sum + 7) / 8) (hlt : 8 * bytes < 2 ^ 16)
    (haddress : address < 2 ^ 29) :
    (∃ config', assignDirection slave i config = .ok config') ↔
      (bitLengths (config.entries i)).sum % 8 = 0 := by
  have hlength : (UInt16.ofNat (8 * bytes)).toNat = 8 * bytes := by
    rw [UInt16.toNat_ofNat', Nat.mod_eq_of_lt hlt]
  by_cases hzero : (FmmuConfig.new physicalAddress (.ofNat (8 * bytes)) direction).bitLength = 0
  · -- nothing is mapped, and nothing was read
    have hnone : 8 * bytes = 0 := by
      rw [← hlength]
      exact congrArg UInt16.toNat hzero
    rw [placeSlot, if_pos hzero] at hslot
    rw [assignDirection, hslot]
    exact iff_of_true ⟨config, rfl⟩ (by omega)
  · have hpos : 8 * bytes ≠ 0 := fun h => hzero (UInt16.toNat_inj.mp (hlength.trans h))
    obtain ⟨placed, hplaced, hlogical, hstartBit, hbitLength⟩ : ∃ placed : FmmuConfig,
        placeSlot address (some (.new physicalAddress (.ofNat (8 * bytes)) direction)) =
            some placed ∧
          placed.logicalAddress = some (.ofNat address) ∧ placed.startBit.toNat = 0 ∧
          placed.bitLength.toNat = 8 * bytes := ⟨_, if_neg hzero, rfl, rfl, hlength⟩
    have hmul : mulUpTo 32 (UInt32.ofNat address).toNat 8 = .ok (address * 8) := by
      rw [UInt32.toNat_ofNat', Nat.mod_eq_of_lt (by omega)]
      exact mulUpTo_eq_ok_iff.mpr ⟨by omega, rfl⟩
    have hadd : addUpTo 64 (address * 8) 0 = .ok (address * 8) :=
      addUpTo_eq_ok_iff.mpr ⟨by omega, rfl⟩
    have hentries : (config.mappings i).flatMap PdoMapping.entries = config.entries i := rfl
    have hmaps : (config.mappings i).isEmpty = false := by
      rw [List.isEmpty_eq_false_iff]
      intro hempty
      rw [← hentries, hempty] at hbytes
      simp only [List.flatMap_nil, bitLengths, List.map_nil, List.sum_nil] at hbytes
      omega
    obtain ⟨pdoMaps, hassign⟩ := exists_assignMappings (config.mappings i) (address * 8)
      (by
        rw [hentries]
        omega)
    rw [hentries] at hassign
    rw [assignDirection, hslot, hplaced]
    simp only [hlogical, hmul, ok_bind, hstartBit, hadd, hmaps, Bool.false_eq_true, if_false, hassign,
      Nat.le_add_right, sub_of_le, Nat.add_sub_cancel_left, hbitLength]
    constructor
    · rintro ⟨config', hconfig⟩
      obtain ⟨_, hassert, -⟩ := bind_eq_ok.mp hconfig
      have := assert_eq_ok_iff.mp hassert
      omega
    · intro hwhole
      exact ⟨_, bind_eq_ok.mpr ⟨(), assert_eq_ok_iff.mpr (by omega), rfl⟩⟩

section

variable {config : SlaveConfig} {slave slave' : Slave} {address : ℕ}

/-- A direction that is not mapped has nothing to assert. -/
lemma SetUp.exists_assignDirection_iff (h : SetUp config slave slave')
    (haddress : address + slave'.fmmuBytes < 2 ^ 29) {i : Fin 2} (direction : Direction)
    (hi : i.castSucc = direction.fmmuSlot) {config' : SlaveConfig}
    (hentries : config'.entries i = config.entries i) :
    (∃ config'', assignDirection (slave'.placeFmmus address) i config' = .ok config'') ↔
      (slave.info.Maps direction → config.bits direction % 8 = 0) := by
  obtain ⟨a, ha, hslot⟩ : ∃ a < 2 ^ 29, (slave'.placeFmmus address).fmmu.get i.castSucc =
      placeSlot a (slave'.fmmu.get direction.fmmuSlot) := by
    rw [Slave.fmmuBytes] at haddress
    rw [hi]
    cases direction
    · exact ⟨address + slotBytes (slave'.fmmu.get 0), by omega, rfl⟩
    · exact ⟨address, by omega, rfl⟩
  have hbits : (bitLengths (config'.entries i)).sum = config.bits direction := by
    rw [hentries, SlaveConfig.bits, ← hi]
    rfl
  by_cases hmap : slave.info.Maps direction
  · obtain ⟨physicalAddress, hmapped⟩ := h.mapped direction hmap
    rw [hmapped] at hslot
    have hbytes : slave.info.bytes config direction =
        ((bitLengths (config'.entries i)).sum + 7) / 8 := by
      rw [hbits, SlaveInfo.bytes, SlaveInfo.bits, if_pos hmap.2]
    rw [EtherCat.exists_assignDirection_iff hslot hbytes (h.small hmap.1 direction) ha, hbits]
    exact ⟨fun h _ => h, fun h => h hmap⟩
  · rw [h.unmapped direction hmap] at hslot
    rw [assignDirection, hslot]
    exact iff_of_true ⟨config', rfl⟩ fun h => absurd h hmap

lemma SetUp.exists_assignSlave_iff (h : SetUp config slave slave')
    (haddress : address + slave'.fmmuBytes < 2 ^ 29) :
    (∃ slot', assignSlave (slave'.placeFmmus address, config) = .ok slot') ↔
      slave.info.WholeBytes config := by
  have hout := h.exists_assignDirection_iff haddress (i := 0) .output rfl
    (Eq.refl (config.entries (0 : Fin 2)))
  constructor
  · rintro ⟨slot', hassign⟩
    obtain ⟨config', hfirst, hrest⟩ := bind_eq_ok.mp hassign
    obtain ⟨config'', hsecond, -⟩ := bind_eq_ok.mp hrest
    have hentries := (assignDirection_eq_ok hfirst).1 1 (by decide)
    have hin := h.exists_assignDirection_iff haddress .input rfl hentries
    rintro (_ | _) hmap
    · exact hin.mp ⟨config'', hsecond⟩ hmap
    · exact hout.mp ⟨config', hfirst⟩ hmap
  · intro hwhole
    obtain ⟨config', hfirst⟩ := hout.mpr (hwhole .output)
    have hentries := (assignDirection_eq_ok hfirst).1 1 (by decide)
    have hin := h.exists_assignDirection_iff haddress .input rfl hentries
    obtain ⟨config'', hsecond⟩ := hin.mpr (hwhole .input)
    exact ⟨_, bind_eq_ok.mpr ⟨config', hfirst, bind_eq_ok.mpr ⟨config'', hsecond, rfl⟩⟩⟩

end

/-! ## All four passes -/

/-- **What is asked of a network**: the slaves have different addresses, they are as the
initialisation and earlier configurations leave them, their entries match their dictionaries, and the
image fits into a datagram. -/
structure ImageMatches (network : Network) (ods : Dictionaries) : Prop where
  distinct : (slavesOf network.slaves).Pairwise fun a b => a.info.slaveAddress ≠ b.info.slaveAddress
  prepared : ∀ slave ∈ slavesOf network.slaves, slave.Prepared
  entries : ∀ slave config, (some slave, config) ∈ network.slaves →
    EntriesMatch (ods slave.info.slaveAddress) slave.info config
  size : imageBytes network.slaves ≤ maxPduDatagram

/-- **Nothing is rounded**: every slave has enough memory, and whole bytes in every direction that is
mapped. -/
def Network.IsWhole (network : Network) (ods : Dictionaries) : Prop :=
  ∀ slave config, (some slave, config) ∈ network.slaves →
    MemoryFits ((ods slave.info.slaveAddress).withPdoConfig slave.info config) slave.info config ∧
      slave.info.WholeBytes config

lemma ImageMatches.small {network : Network} {ods : Dictionaries} (h : ImageMatches network ods)
    {slave : Slave} {config : SlaveConfig} (hmem : (some slave, config) ∈ network.slaves)
    (hstart : slave.info.pdoStartAddress.isSome) (direction : Direction) :
    8 * slave.info.bytes config direction < 2 ^ 16 := by
  have hmax : maxPduDatagram = 1486 := rfl
  have hle : slave.imageBytes config ≤ imageBytes network.slaves :=
    List.single_le_sum (fun _ _ => Nat.zero_le _) _ (List.mem_map.mpr ⟨_, hmem, rfl⟩)
  have hsize := h.size
  rw [Slave.imageBytes, if_pos hstart] at hle
  cases direction <;> omega

lemma OnlyCounts.setUp {config : SlaveConfig} {slave slave' slave'' : Slave}
    (h : OnlyCounts slave slave') (h' : SetUp config slave' slave'') : SetUp config slave slave'' := by
  obtain ⟨count, rfl⟩ := h
  exact ⟨h'.info, h'.small, h'.mapped, h'.unmapped, h'.mailbox, h'.isBytes⟩

lemma OnlyCounts.symm {slave slave' : Slave} (h : OnlyCounts slave slave') :
    OnlyCounts slave' slave := by
  obtain ⟨count, rfl⟩ := h
  exact ⟨slave.mailboxCount, rfl⟩

lemma OnlyCounts.prepared {slave slave' : Slave} (h : OnlyCounts slave slave')
    (hprepared : slave.Prepared) : slave'.Prepared := by
  obtain ⟨count, rfl⟩ := h
  exact ⟨hprepared.directions, hprepared.mailbox⟩

/-- The second pass after the first one: it returns if the memory of every slave is enough. -/
lemma run_setPdoToSm {network : Network} {ods : Dictionaries} (h : ImageMatches network ods) :
    ∃ slots₁ ods₁, (forSlots setPdoConfigToOdSlave network.slaves).run Dictionaries.answer ods =
        (.returned (.ok (), slots₁), ods₁) ∧
      ((∀ slave config, (some slave, config) ∈ network.slaves →
          MemoryFits ((ods slave.info.slaveAddress).withPdoConfig slave.info config) slave.info
            config) →
        ∃ slots₂, SlotsRel SetUp network.slaves slots₂ ∧
          (forSlots setPdoToSmSlave slots₁).run Dictionaries.answer ods₁ =
            (.returned (.ok (), slots₂), ods₁)) ∧
      ((¬ ∀ slave config, (some slave, config) ∈ network.slaves →
          MemoryFits ((ods slave.info.slaveAddress).withPdoConfig slave.info config) slave.info
            config) →
        ∃ e w', (forSlots setPdoToSmSlave slots₁).run Dictionaries.answer ods₁ =
          (.panicked e, w')) := by
  obtain ⟨slots₁, ods₁, hcounts, hrun₁, hwritten, -⟩ := run_setPdoConfigToOd ods h.distinct
    fun slave config hmem =>
      ⟨(h.entries slave config hmem).countsOutput, (h.entries slave config hmem).countsInput⟩
  -- what the second pass needs of a slave, which the count does not matter for
  let Known : Slave → SlaveConfig → Prop := fun slave config =>
    (∃ n, (ods₁ slave.info.slaveAddress).HasByte 0x1C00 0 n) ∧
      (∀ direction, (ods₁ slave.info.slaveAddress).DirectionBits slave.info direction
        (slave.info.bits config direction)) ∧
      slave.Prepared ∧
      (slave.info.pdoStartAddress.isSome →
        ∀ direction, 8 * slave.info.bytes config direction < 2 ^ 16)
  have hknown : ∀ slave config, (some slave, config) ∈ network.slaves → Known slave config := by
    intro slave config hmem
    have hentries := h.entries slave config hmem
    have hslave := mem_slavesOf.mpr ⟨config, hmem⟩
    refine ⟨?_, ?_, h.prepared slave hslave, h.small hmem⟩
    · rw [hwritten slave config hmem]
      exact hentries.channels
    · rw [hwritten slave config hmem]
      exact hentries.bits
  have hknown₁ : ∀ slave config, (some slave, config) ∈ slots₁ → Known slave config := by
    refine (hcounts.forall_iff fun config slave slave' hrel => ?_).mp hknown
    simp only [Known, hrel.info]
    exact and_congr_right fun _ => and_congr_right fun _ => and_congr_left fun _ =>
      ⟨hrel.prepared, hrel.symm.prepared⟩
  have hmemory : (∀ slave config, (some slave, config) ∈ network.slaves →
        MemoryFits ((ods slave.info.slaveAddress).withPdoConfig slave.info config) slave.info
          config) ↔
      ∀ slave config, (some slave, config) ∈ slots₁ →
        MemoryFits (ods₁ slave.info.slaveAddress) slave.info config := by
    rw [← hcounts.forall_iff (P := fun slave config =>
      MemoryFits (ods₁ slave.info.slaveAddress) slave.info config) fun config slave slave' hrel => by
        rw [hrel.info]]
    refine forall_congr' fun slave => forall_congr' fun config => forall_congr' fun hmem => ?_
    rw [hwritten slave config hmem]
  have hbody (slave : Slave) (config : SlaveConfig) (hmem : (some slave, config) ∈ slots₁) :=
    run_setPdoToSmSlave config (Dictionaries.serves ods₁ slave.info)
      (hknown₁ slave config hmem).1 (hknown₁ slave config hmem).2.1 (hknown₁ slave config hmem).2.2.1
      (hknown₁ slave config hmem).2.2.2
  obtain ⟨hreturns, hpanics⟩ := run_forSlots (fun slave config hmem => (hbody slave config hmem).1)
    (fun slave config hmem => (hbody slave config hmem).2)
  refine ⟨slots₁, ods₁, hrun₁, fun hall => ?_, fun hnot => hpanics fun hall => hnot ?_⟩
  · obtain ⟨slots₂, hsetUp, hrun₂⟩ := hreturns (hmemory.mp hall)
    exact ⟨slots₂, hcounts.trans hsetUp fun _ _ _ _ h h' => h.setUp h', hrun₂⟩
  · exact hmemory.mpr hall

lemma sum_slavesOf (f : Slave → ℕ) (slots : List (Option Slave × SlaveConfig)) :
    ((slavesOf slots).map f).sum = (slots.map fun slot => slot.1.elim 0 f).sum := by
  induction slots with
  | nil => rfl
  | cons slot slots ih =>
      rw [List.map_cons, List.sum_cons, ← ih]
      obtain ⟨slave | slave, config⟩ := slot
      · exact (Nat.zero_add _).symm
      · exact List.sum_cons

/-- The third and the fourth pass: they return if no direction has a remainder. -/
lemma run_assignAddresses {network : Network} {slots : List (Option Slave × SlaveConfig)}
    (hsetUp : SlotsRel SetUp network.slaves slots) (hsize : imageBytes network.slaves ≤ maxPduDatagram)
    (ods : Dictionaries) :
    ∃ accesses image ods', Returns Dictionaries.answer configureFmmu { network with slaves := slots }
        ods accesses image ({ network with slaves := slots } : Network).placeFmmus ods' ∧
      ((∃ network', setLogicalAddressToPdoEntryConfig
          ({ network with slaves := slots } : Network).placeFmmus = .ok network') ↔
        ∀ slave config, (some slave, config) ∈ network.slaves → slave.info.WholeBytes config) := by
  have hmax : maxPduDatagram = 1486 := rfl
  have hstart : logicalStartAddress.toNat = 4096 := rfl
  have hsum : ((slavesOf slots).map Slave.fmmuBytes).sum = imageBytes network.slaves := by
    rw [imageBytes, hsetUp.sum_eq (g := fun slave _ => slave.fmmuBytes)
      fun config slave slave' h => h.fmmuBytes_eq.symm, sum_slavesOf]
  have hbytes : ({ network with slaves := slots } : Network).FmmusAreBytes := by
    intro slave hslave
    obtain ⟨config, hmem⟩ := mem_slavesOf.mp hslave
    exact (hsetUp.forall_iff (P := fun _ _ => True) fun config slave slave' h =>
      iff_of_true trivial h.forall_isBytes).mp (fun _ _ _ => trivial) slave config hmem
  have hfits : ({ network with slaves := slots } : Network).fmmuBytes.sum ≤ maxPduDatagram := by
    rw [← hsum] at hsize
    exact (sum_flatMap_fmmuSlots _).trans_le hsize
  obtain ⟨ods', hreturns⟩ := (follows_configureFmmu hbytes hfits).returns
    (fun access haccess ods => succeeds_of_mem_writesAt haccess ods) ods
  refine ⟨_, _, ods', hreturns, ?_⟩
  have hplaced := slotsRel_placeSlaves (2 ^ 29 - 1) slots logicalStartAddress.toNat
    (by omega)
  rw [setLogicalAddressToPdoEntryConfig, Network.exists_mapSlaves_iff]
  refine ((hsetUp.trans hplaced fun config slave slave' slave'' h h' => ?_).forall_iff
    (R := fun config slave slave' => (∃ slot', assignSlave (slave', config) = .ok slot') ↔
      slave.info.WholeBytes config) fun config slave slave' h => h.symm).symm
  obtain ⟨address, haddress, rfl⟩ := h'
  exact h.exists_assignSlave_iff (by omega)

section

variable {σ α : Type} {h : σ → (access : Access) → access.Answer × σ} {w w' : σ} {image : PdoImage}
  {accesses : List Access}

lemma returns_onNetwork (image : PdoImage) {m : Configure Network α} {a : α} {network : Network}
    (hm : Returns h m image.network w accesses a network w') :
    Returns h (PdoImage.onNetwork m) image w accesses a { image with network := network } w' :=
  hm.zoom

/-- The last step returns if the addresses of the entries can be assigned. -/
lemma returns_setLogicalAddress {network : Network}
    (hassign : setLogicalAddressToPdoEntryConfig image.network = .ok network) :
    Returns h PdoImage.setLogicalAddressToPdoEntryConfig image w [] ()
      { image with network := network } w :=
  (returns_get image w).bind_nil ((returns_ofExec hassign image w).bind_nil
    (returns_modify _ image w))

lemma panics_setLogicalAddress
    (hassign : ¬ ∃ network, setLogicalAddressToPdoEntryConfig image.network = .ok network) :
    Panics h PdoImage.setLogicalAddressToPdoEntryConfig image w := by
  refine (returns_get image w).bind_panics ?_
  rcases hresult : setLogicalAddressToPdoEntryConfig image.network with e | network
  · exact (panics_ofExec rfl image w).bind _
  · exact absurd ⟨network, hresult⟩ hassign

end

/-- **The configuration of the image completes exactly when nothing is rounded.**  For every network
whose entries match the dictionaries and whose image fits into a datagram: otherwise it panics, and
then it returns without an error. -/
theorem configurePdoImage_completes_iff {image : PdoImage} {ods : Dictionaries}
    (h : ImageMatches image.network ods) :
    ((¬ Panics Dictionaries.answer PdoImage.configurePdoImage image ods) ↔
        image.network.IsWhole ods) ∧
      (image.network.IsWhole ods → ∃ accesses image' ods',
        Returns Dictionaries.answer PdoImage.configurePdoImage image ods accesses () image' ods') := by
  obtain ⟨slots₁, ods₁, hrun₁, hreturns, hpanics⟩ := run_setPdoToSm h
  have hfirst := returns_onNetwork image (returns_forSlaves image.network hrun₁)
  have hbad (hpanic : Panics Dictionaries.answer PdoImage.configurePdoImage image ods)
      (hnot : ¬ image.network.IsWhole ods) :
      ((¬ Panics Dictionaries.answer PdoImage.configurePdoImage image ods) ↔
          image.network.IsWhole ods) ∧
        (image.network.IsWhole ods → ∃ accesses image' ods', Returns Dictionaries.answer
          PdoImage.configurePdoImage image ods accesses () image' ods') :=
    ⟨iff_of_false (fun h => h hpanic) hnot, fun hwhole => absurd hwhole hnot⟩
  by_cases hmemory : ∀ slave config, (some slave, config) ∈ image.network.slaves →
      MemoryFits ((ods slave.info.slaveAddress).withPdoConfig slave.info config) slave.info config
  · obtain ⟨slots₂, hsetUp, hrun₂⟩ := hreturns hmemory
    obtain ⟨accesses, sizes, ods₃, hfmmu, hwhole⟩ := run_assignAddresses hsetUp h.size ods₁
    have hsecond := returns_onNetwork { image with network := _ }
      (returns_forSlaves { image.network with slaves := slots₁ } hrun₂)
    have hthird := returns_onNetwork { image with network := _ } hfmmu
    by_cases hall : ∀ slave config, (some slave, config) ∈ image.network.slaves →
        slave.info.WholeBytes config
    · obtain ⟨network', hassign⟩ := hwhole.mpr hall
      obtain ⟨accesses, image', ods', hreturn⟩ : ∃ accesses image' ods', Returns
          Dictionaries.answer PdoImage.configurePdoImage image ods accesses () image' ods' :=
        ⟨_, _, _, hfirst.bind (hsecond.bind (hthird.bind
          ((returns_modify _ _ _).bind (returns_setLogicalAddress hassign))))⟩
      refine ⟨iff_of_true (fun hpanic => hpanic.not_returns hreturn) fun slave config hmem => ?_,
        fun _ => ⟨accesses, image', ods', hreturn⟩⟩
      exact ⟨hmemory slave config hmem, hall slave config hmem⟩
    · refine hbad (hfirst.bind_panics (hsecond.bind_panics (hthird.bind_panics ?_))) fun hboth =>
        hall fun slave config hmem => (hboth slave config hmem).2
      exact (returns_modify _ _ _).bind_panics (panics_setLogicalAddress fun h => hall (hwhole.mp h))
  · refine hbad (hfirst.bind_panics (Panics.bind ?_ _)) fun hboth =>
      hmemory fun slave config hmem => (hboth slave config hmem).1
    exact (panics_forSlaves (hpanics hmemory)).zoom

/-! ## Mappings that agree -/

/-- The bits that are listed are those of all entries. -/
lemma totalBits_eq {fixedBits : UInt16 → List ℕ} {pdoMappings : List PdoMapping}
    (hfixed : ∀ pdoMap ∈ listed pdoMappings, pdoMap.isFixed = true →
      (fixedBits pdoMap.index).sum = (bitLengths pdoMap.entries).sum) :
    totalBits fixedBits pdoMappings =
      (bitLengths (pdoMappings.flatMap PdoMapping.entries)).sum := by
  induction pdoMappings with
  | nil => rfl
  | cons pdoMap pdoMappings ih =>
      have hsum : (bitLengths ((pdoMap :: pdoMappings).flatMap PdoMapping.entries)).sum =
          (bitLengths pdoMap.entries).sum +
            (bitLengths (pdoMappings.flatMap PdoMapping.entries)).sum := by
        rw [List.flatMap_cons, bitLengths, List.map_append, List.sum_append]
        rfl
      rw [hsum]
      by_cases hempty : pdoMap.entries.isEmpty = true
      · have hlisted : listed (pdoMap :: pdoMappings) = listed pdoMappings := by
          rw [listed, List.filter_cons_of_neg (by simp [hempty])]
          rfl
        rw [hlisted] at hfixed
        rw [totalBits, hlisted, List.isEmpty_iff.mp hempty]
        exact (ih hfixed).trans (Nat.zero_add _).symm
      · have hlisted : listed (pdoMap :: pdoMappings) = pdoMap :: listed pdoMappings := by
          rw [listed, List.filter_cons_of_pos (by simp [hempty])]
          rfl
        rw [hlisted] at hfixed
        rw [totalBits, hlisted, List.map_cons, List.sum_cons,
          ← ih fun m hm => hfixed m (List.mem_cons_of_mem _ hm)]
        refine congrArg (· + _) ?_
        rw [mapBits]
        split
        · next h => exact hfixed pdoMap (List.mem_cons_self ..) h
        · rfl

/-- A configuration that the slave can take matches if the fixed mappings have the bits of the
dictionary. -/
lemma entriesMatch_of_configOk {info : SlaveInfo} {config : SlaveConfig} {od : Dictionary}
    {fixedBits : UInt16 → List ℕ} (hok : PdoConfigOk info config od fixedBits)
    (hfixed : ∀ pdoMap ∈ config.listedMaps, pdoMap.isFixed = true →
      (fixedBits pdoMap.index).sum = (bitLengths pdoMap.entries).sum) :
    EntriesMatch od info config := by
  have hlisted := configListed_withPdoConfig hok
  refine ⟨hok.countsOutput, hok.countsInput, ?_, fun direction => ?_⟩
  · obtain ⟨n, -, rest, hdata⟩ := hok.channels
    refine ⟨n, rest, ?_⟩
    rw [hlisted.types]
    exact hdata
  · have hbits : info.bits config direction = directionBits fixedBits info config direction := by
      rw [SlaveInfo.bits, directionBits]
      rcases direction.smNumber info with _ | smNumber
      · rfl
      · simp only [Option.isSome_some, if_true, SlaveConfig.bits]
        cases direction
        · exact (totalBits_eq fun m hm => hfixed m (List.mem_append_right _ hm)).symm
        · exact (totalBits_eq fun m hm => hfixed m (List.mem_append_left _ hm)).symm
    rw [hbits]
    exact hlisted.directionBits hok direction

/-- One mapping of outputs. -/
def outputsConfig (entries : List PdoEntry) : SlaveConfig :=
  { SlaveConfig.default with outputPdoMappings := [⟨false, 0x1600, entries⟩] }

/-- A slave with it. -/
def outputsImage (entries : List PdoEntry) : PdoImage where
  network :=
    { slaves := [(some (ioSlave (some 0x1400)), outputsConfig entries)]
      pushCount := 1 }
  processDataTask := .new logicalStartAddress 0 0

lemma outputsImage_matches {entries : List PdoEntry} (hlength : entries.length < 256)
    (hsize : (bitLengths entries).sum ≤ 8 * maxPduDatagram) :
    ImageMatches (outputsImage entries).network fun _ => byteOutput := by
  have hlisted : ∀ m ∈ listed (outputsConfig entries).outputPdoMappings,
      m = ⟨false, 0x1600, entries⟩ :=
    fun m hm => List.mem_singleton.mp (List.mem_filter.mp hm).1
  have hmaps : ∀ m ∈ (outputsConfig entries).listedMaps, m = ⟨false, 0x1600, entries⟩ := by
    intro m hm
    rcases List.mem_append.mp hm with hm | hm
    · exact hlisted m hm
    · cases hm
  have hassign : ∀ direction smNumber,
      Direction.smNumber (ioSlave (some 0x1400)).info direction = some smNumber →
        (0x1600 : UInt16) ≠ Dictionary.smAssign smNumber ∧
          byteOutput.HasByte 0x1C00 (smNumber + 1) direction.smType := by
    rintro (_ | _) smNumber hnumber <;> cases hnumber <;> exact ⟨by decide, [], rfl⟩
  have hok : PdoConfigOk (ioSlave (some 0x1400)).info (outputsConfig entries) byteOutput
      fun _ => [] := by
    refine ⟨⟨?_, ?_⟩, ⟨Nat.zero_lt_succ _, fun _ h => by cases h⟩, ?_, ?_, ?_,
      ⟨4, by decide, [], rfl⟩, fun direction smNumber h => (hassign direction smNumber h).2, ?_⟩
    · exact (List.length_filter_le _ _).trans_lt (show 1 < 256 by decide)
    · intro m hm
      rw [hlisted m hm]
      exact hlength
    · refine List.pairwise_append.mpr ⟨?_, .nil, fun _ _ _ h => by cases h⟩
      exact (List.pairwise_singleton _ _).filter _
    · intro m hm
      rw [hmaps m hm]
      show (0x1600 : UInt16) ≠ 0x1C00
      decide
    · intro m hm direction smNumber hnumber
      rw [hmaps m hm]
      exact (hassign direction smNumber hnumber).1
    · intro m hm hfixed
      rw [hmaps m hm] at hfixed
      cases hfixed
  refine ⟨List.pairwise_singleton _ _, ?_, ?_, ?_⟩
  · intro slave hslave
    cases List.mem_singleton.mp hslave
    refine ⟨fun direction _ => ?_, fun fmmu h => by cases h⟩
    cases direction <;> rfl
  · intro slave config hmem
    cases List.mem_singleton.mp hmem
    refine entriesMatch_of_configOk hok fun m hm hfixed => ?_
    rw [hmaps m hm] at hfixed
    cases hfixed
  · have hout : (ioSlave (some 0x1400)).info.bits (outputsConfig entries) .output =
        (bitLengths (entries ++ [])).sum := if_pos (by decide)
    have hin : (ioSlave (some 0x1400)).info.bits (outputsConfig entries) .input = 0 :=
      if_pos (by decide)
    have hbytes : imageBytes (outputsImage entries).network.slaves =
        (ioSlave (some 0x1400)).imageBytes (outputsConfig entries) := rfl
    rw [hbytes, Slave.imageBytes, if_pos (by decide), SlaveInfo.bytes, SlaveInfo.bytes, hout, hin,
      List.append_nil]
    show (_ + 7) / 8 + (0 + 7) / 8 + 0 ≤ _
    omega

/-- One bit of outputs: the FMMU has eight, and the assertion fails. -/
theorem oneBit_panics :
    ImageMatches (outputsImage [.new 0x7000 1 1]).network (fun _ => byteOutput) ∧
      Panics Dictionaries.answer PdoImage.configurePdoImage (outputsImage [.new 0x7000 1 1])
        fun _ => byteOutput :=
  ⟨outputsImage_matches (by decide) (by decide), .assertion, _, rfl⟩

/-- Three and five bits are a byte. -/
theorem eightBits_completes : ∃ accesses image' ods',
    Returns Dictionaries.answer PdoImage.configurePdoImage
      (outputsImage [.new 0x7000 1 3, .new 0x7000 2 5]) (fun _ => byteOutput) accesses () image'
        ods' := by
  refine (configurePdoImage_completes_iff (outputsImage_matches (by decide) (by decide))).2 ?_
  intro slave config hmem
  cases List.mem_singleton.mp hmem
  refine ⟨⟨fun _ => ⟨4, by decide, [], rfl⟩, fun ramAddress hstart => ?_⟩, fun direction _ => ?_⟩
  · cases hstart
    decide
  · cases direction <;> decide

end EtherCat
