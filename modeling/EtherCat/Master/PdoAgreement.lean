import EtherCat.Master.ProcessDataAreas
import EtherCat.Master.WriteDictionary
import Mathlib.Data.List.Pairwise

/-!
# The configured process data is what is read back

`set_pdo_config_to_od` writes the mappings of the user into the object dictionary of a slave, and
`set_pdo_to_sm` computes the lengths of the sync managers from what the dictionary says then.  They
agree (`pdoConfig_isRead`) if the mappings do not use the objects of the sync managers themselves.
-/

namespace EtherCat

open Rust Rust.Exec Rust.Method BitField Configure

/-! ## Both directions of a slave -/

/-- The mappings of a direction. -/
def SlaveConfig.mappingsOf (config : SlaveConfig) : Direction → List PdoMapping
  | .output => config.outputPdoMappings
  | .input => config.inputPdoMappings

/-- The bits of a direction: none without a sync manager. -/
def Dictionary.DirectionBits (od : Dictionary) (info : SlaveInfo) (direction : Direction)
    (total : ℕ) : Prop :=
  (direction.smNumber info = none ∧ total = 0) ∨
    ∃ smNumber, direction.smNumber info = some smNumber ∧ od.SmBits direction smNumber total

/-- The slave with the FMMU of a direction, if there is a sync manager. -/
def Slave.withDirection (slave : Slave) (direction : Direction) (startRamAddress size : UInt16) :
    Slave :=
  match direction.smNumber slave.info with
  | none => slave
  | some _ => slave.setFmmu direction.fmmuSlot (.new startRamAddress (size * 8) direction)

/-- The length that a write of the control register gives to a sync manager. -/
def Access.smLength (smNumber : UInt8) : Access → Option ℕ
  | .writeRegister _ address data =>
    if address = SyncManagerControl.address + 0x08 * smNumber.toUInt16 then
      some (SyncManagerControl.length.val data)
    else none
  | _ => none

lemma filterMap_smLength_reads {reads : List Access} (hreads : ∀ read ∈ reads, read.IsSdoRead)
    (smNumber : UInt8) : reads.filterMap (Access.smLength smNumber) = [] := by
  refine List.filterMap_eq_nil_iff.mpr fun read hread => ?_
  have := hreads read hread
  cases read with
  | readSdo => rfl
  | writeSdo => cases this
  | readRegister => cases this
  | writeRegister => cases this

lemma filterMap_smLength_smWrites (slave : Slave) (direction : Direction)
    (startRamAddress size : UInt16) {smNumber smNumber' : UInt8} (hlt : smNumber.toNat < 4)
    (hlt' : smNumber'.toNat < 4) :
    (smWrites slave direction smNumber startRamAddress size).filterMap
        (Access.smLength smNumber') = if smNumber = smNumber' then [size.toNat] else [] := by
  have haddresses : ∀ a ∈ [(0 : UInt8), 1, 2, 3], ∀ b ∈ [(0 : UInt8), 1, 2, 3],
      (SyncManagerControl.address + 0x08 * a.toUInt16 =
        SyncManagerControl.address + 0x08 * b.toUInt16 ↔ a = b) ∧
      SyncManagerActivation.address + 0x08 * a.toUInt16 ≠
        SyncManagerControl.address + 0x08 * b.toUInt16 := by
    intro a ha b hb
    simp only [List.mem_cons, List.not_mem_nil, or_false] at ha hb
    rcases ha with rfl | rfl | rfl | rfl <;> rcases hb with rfl | rfl | rfl | rfl <;> decide
  have hmem {n : UInt8} (hn : n.toNat < 4) : n ∈ [(0 : UInt8), 1, 2, 3] := by
    have hall : ∀ k < 4, UInt8.ofNat k ∈ [(0 : UInt8), 1, 2, 3] := by decide
    have hn := hall n.toNat hn
    rwa [UInt8.ofNat_toNat] at hn
  obtain ⟨hcontrol, hactivation⟩ := haddresses smNumber (hmem hlt) smNumber' (hmem hlt')
  simp only [smWrites, List.filterMap_cons, List.filterMap_nil, Access.smLength, hactivation,
    if_false, hcontrol, (val_smControl direction startRamAddress size).2]
  by_cases heq : smNumber = smNumber'
  · rw [if_pos heq, if_pos heq]
  · rw [if_neg heq, if_neg heq]

section

variable {σ : Type} {h : σ → (access : Access) → access.Answer × σ} {w : σ} {info : SlaveInfo}
  {od : Dictionary}

/-- One direction: its sync manager gets the bytes, and it returns if they fit. -/
lemma returns_direction (hserves : Serves h w info od) (hchannels : od.HasChannels)
    {direction : Direction} {total : ℕ} (htotal : od.DirectionBits info direction total)
    {slave : Slave} (hslave : slave.info = info) (startRamAddress : UInt16) :
    ∃ accesses slave', OnlyCounts slave slave' ∧
      (∀ smNumber : UInt8, smNumber.toNat < 4 → accesses.filterMap (Access.smLength smNumber) =
        if direction.smNumber info = some smNumber then [(narrowed total).toNat] else []) ∧
      (SizeFits startRamAddress (narrowed total) →
        Returns h (setPdoToSmUtility direction startRamAddress) slave w accesses
          (startRamAddress + narrowed total * 3)
          (slave'.withDirection direction startRamAddress (narrowed total)) w) ∧
      (¬ SizeFits startRamAddress (narrowed total) →
        Panics h (setPdoToSmUtility direction startRamAddress) slave w) := by
  rcases htotal with ⟨hnone, rfl⟩ | ⟨smNumber, hsm, htotal⟩
  · refine ⟨[.readSdo slave 0x1C00 0], slave.incrementMbCount.2,
      onlyCounts_incrementMbCount slave, fun smNumber _ => ?_, fun _ => ?_, fun hfits => ?_⟩
    · rw [hnone]
      rfl
    · have hreturns := returns_setPdoToSmUtility_none hserves hchannels hnone hslave startRamAddress
      have hzero : startRamAddress + narrowed 0 * 3 = startRamAddress :=
        UInt16.add_zero startRamAddress
      have hinfo : slave.incrementMbCount.2.info = info := hslave
      rw [hzero, Slave.withDirection, hinfo, hnone]
      exact hreturns
    · exact absurd ⟨by decide, startRamAddress.toNat_lt⟩ hfits
  · obtain ⟨reads, slave', hcounts, hreads, hreturns, hpanics⟩ :=
      returns_setPdoToSmUtility hserves hsm (htotal.described_eq hchannels) hslave startRamAddress
    refine ⟨.readSdo slave 0x1C00 0 ::
        (reads ++ smWrites slave' direction smNumber startRamAddress (narrowed total)),
      slave', hcounts, fun smNumber' hlt => ?_, fun hfits => ?_, hpanics⟩
    · rw [List.filterMap_cons_none rfl, List.filterMap_append, filterMap_smLength_reads hreads,
        List.nil_append, filterMap_smLength_smWrites _ _ _ _ (SlaveInfo.toNat_smNumber_lt hsm) hlt,
        hsm]
      simp only [Option.some.injEq]
    · rw [Slave.withDirection, hcounts.info, hslave, hsm]
      exact hreturns hfits

lemma OnlyCounts.withDirection {slave slave' : Slave} (h : OnlyCounts slave slave')
    (direction : Direction) (startRamAddress size : UInt16) :
    OnlyCounts (slave.withDirection direction startRamAddress size)
      (slave'.withDirection direction startRamAddress size) := by
  obtain ⟨count, rfl⟩ := h
  simp only [Slave.withDirection]
  split
  · exact ⟨count, rfl⟩
  · exact ⟨count, rfl⟩

@[simp] lemma Slave.info_withDirection (slave : Slave) (direction : Direction)
    (startRamAddress size : UInt16) :
    (slave.withDirection direction startRamAddress size).info = slave.info := by
  rw [withDirection]
  split <;> rfl

lemma Slave.get_withDirection (slave : Slave) (direction : Direction)
    (startRamAddress size : UInt16) (i : Fin 3) :
    (slave.withDirection direction startRamAddress size).fmmu.get i =
      if (direction.smNumber slave.info).isSome ∧ direction.fmmuSlot = i then
        some (.new startRamAddress (size * 8) direction)
      else slave.fmmu.get i := by
  rw [withDirection]
  rcases direction.smNumber slave.info with _ | smNumber
  · simp
  · simp

/-- The slave with the FMMUs of both directions, the inputs behind the outputs. -/
def Slave.withProcessData (slave : Slave) (ramAddress : UInt16) (outputBits inputBits : ℕ) : Slave :=
  (slave.withDirection .output ramAddress (narrowed outputBits)).withDirection .input
    (ramAddress + narrowed outputBits * 3) (narrowed inputBits)

/-- The bytes of both directions fit. -/
def BothFit (ramAddress : UInt16) (outputBits inputBits : ℕ) : Prop :=
  SizeFits ramAddress (narrowed outputBits) ∧
    SizeFits (ramAddress + narrowed outputBits * 3) (narrowed inputBits)

/-- Both directions: their sync managers get the bytes, and it returns if they fit. -/
lemma returns_bothDirections (hserves : Serves h w info od) (hchannels : od.HasChannels)
    {ramAddress : UInt16} (hstart : info.pdoStartAddress = some ramAddress)
    {outputBits inputBits : ℕ} (hout : od.DirectionBits info .output outputBits)
    (hin : od.DirectionBits info .input inputBits) {slave : Slave} (hslave : slave.info = info)
    (config : SlaveConfig) :
    ∃ accesses slave', OnlyCounts (slave.withProcessData ramAddress outputBits inputBits) slave' ∧
      (∀ smNumber : UInt8, smNumber.toNat < 4 → accesses.filterMap (Access.smLength smNumber) =
        (if info.processDataRxSmNumber = some smNumber then [(narrowed outputBits).toNat] else []) ++
          (if info.processDataTxSmNumber = some smNumber then [(narrowed inputBits).toNat]
            else [])) ∧
      (BothFit ramAddress outputBits inputBits →
        Returns h (setPdoToSmSlave config) slave w accesses () slave' w) ∧
      (¬ BothFit ramAddress outputBits inputBits → Panics h (setPdoToSmSlave config) slave w) := by
  obtain ⟨accesses₁, slave₁, hcounts₁, hlength₁, hreturns₁, hpanics₁⟩ :=
    returns_direction hserves hchannels hout hslave ramAddress
  have hinfo₁ : (slave₁.withDirection .output ramAddress (narrowed outputBits)).info = info := by
    rw [Slave.info_withDirection, hcounts₁.info, hslave]
  obtain ⟨accesses₂, slave₂, hcounts₂, hlength₂, hreturns₂, hpanics₂⟩ :=
    returns_direction hserves hchannels hin hinfo₁ (ramAddress + narrowed outputBits * 3)
  refine ⟨accesses₁ ++ (accesses₂ ++ []), _,
    ((hcounts₁.withDirection _ _ _).trans hcounts₂).withDirection _ _ _, fun smNumber hlt => ?_,
    fun hfits => ?_, fun hfits => ?_⟩
  · rw [List.append_nil, List.filterMap_append, hlength₁ smNumber hlt, hlength₂ smNumber hlt]
    rfl
  · exact returns_of_directions config (hslave ▸ hstart)
      ((hreturns₁ hfits.1).bind ((hreturns₂ hfits.2).bind (returns_pure () _ w)))
  · refine panics_of_directions config (hslave ▸ hstart) ?_
    by_cases hfits₁ : SizeFits ramAddress (narrowed outputBits)
    · exact (hreturns₁ hfits₁).bind_panics ((hpanics₂ fun h => hfits ⟨hfits₁, h⟩).bind _)
    · exact (hpanics₁ hfits₁).bind _

end

/-! ## What was written is read -/

/-- The numbers of bits of a mapping: those configured, or those of the dictionary if it is
fixed. -/
def mapBits (fixedBits : UInt16 → List ℕ) (pdoMap : PdoMapping) : List ℕ :=
  if pdoMap.isFixed then fixedBits pdoMap.index
  else pdoMap.entries.map fun entry => entry.bitLength.toNat

/-- The bits of all entries of the listed mappings. -/
def totalBits (fixedBits : UInt16 → List ℕ) (pdoMappings : List PdoMapping) : ℕ :=
  ((listed pdoMappings).map fun pdoMap => (mapBits fixedBits pdoMap).sum).sum

/-- The mappings of both directions that are listed. -/
def SlaveConfig.listedMaps (config : SlaveConfig) : List PdoMapping :=
  listed config.outputPdoMappings ++ listed config.inputPdoMappings

/-- **A configuration that a slave can take**: the counts fit into bytes, no two mappings have the
same index, and none has that of an object of a sync manager.  The dictionary has the types of the
sync managers and the entries of fixed mappings. -/
structure PdoConfigOk (info : SlaveInfo) (config : SlaveConfig) (od : Dictionary)
    (fixedBits : UInt16 → List ℕ) : Prop where
  countsOutput : CountsFit config.outputPdoMappings
  countsInput : CountsFit config.inputPdoMappings
  distinct : config.listedMaps.Pairwise fun a b => a.index ≠ b.index
  notTypes : ∀ pdoMap ∈ config.listedMaps, pdoMap.index ≠ 0x1C00
  notAssign : ∀ pdoMap ∈ config.listedMaps, ∀ direction smNumber,
    Direction.smNumber info direction = some smNumber →
      pdoMap.index ≠ Dictionary.smAssign smNumber
  channels : od.HasChannels
  types : ∀ direction smNumber, Direction.smNumber info direction = some smNumber →
    od.HasByte 0x1C00 (smNumber + 1) direction.smType
  fixed : ∀ pdoMap ∈ config.listedMaps, pdoMap.isFixed = true →
    od.MapBits pdoMap.index (fixedBits pdoMap.index)

/-- The dictionary after the configuration of both directions. -/
def Dictionary.withPdoConfig (od : Dictionary) (info : SlaveInfo) (config : SlaveConfig) :
    Dictionary :=
  (od.putPdoConfig info.processDataRxSmNumber config.outputPdoMappings).putPdoConfig
    info.processDataTxSmNumber config.inputPdoMappings

lemma Dictionary.smAssign_injective {a b : UInt8} (h : smAssign a = smAssign b) : a = b := by
  have := congrArg UInt16.toNat h
  simp only [smAssign, UInt16.toNat_add, UInt16.reduceToNat, UInt8.toNat_toUInt16] at this
  have ha := a.toNat_lt
  have hb := b.toNat_lt
  exact UInt8.toNat_inj.mp (by omega)

lemma Dictionary.smAssign_ne_types (smNumber : UInt8) : smAssign smNumber ≠ 0x1C00 := by
  intro h
  have := congrArg UInt16.toNat h
  simp only [smAssign, UInt16.toNat_add, UInt16.reduceToNat, UInt8.toNat_toUInt16] at this
  have := smNumber.toNat_lt
  omega

/-- The two directions have different sync managers. -/
lemma SlaveInfo.smNumber_ne {info : SlaveInfo} {rx tx : UInt8}
    (hrx : info.processDataRxSmNumber = some rx) (htx : info.processDataTxSmNumber = some tx) :
    rx ≠ tx := by
  obtain ⟨i, hi, rfl⟩ := Option.map_eq_some_iff.mp hrx
  obtain ⟨j, hj, rfl⟩ := Option.map_eq_some_iff.mp htx
  obtain ⟨hilt, hget, -⟩ := List.findIdx?_eq_some_iff_getElem.mp hi
  obtain ⟨hjlt, hget', -⟩ := List.findIdx?_eq_some_iff_getElem.mp hj
  have hlength : info.sm.toList.length = 4 := Vector.length_toList
  intro h
  have hij := congrArg UInt8.toNat h
  rw [UInt8.toNat_ofNat', UInt8.toNat_ofNat'] at hij
  obtain rfl : i = j := by omega
  simp only [decide_eq_true_eq] at hget hget'
  rw [hget] at hget'
  cases hget'

/-- What is listed for a direction with a sync manager; the other objects stay. -/
structure DirectionListed (od₀ od : Dictionary) (smNumber : Option UInt8)
    (pdoMappings : List PdoMapping) : Prop where
  assigns : ∀ n ∈ smNumber, od.Assigns (Dictionary.smAssign n)
    ((listed pdoMappings).map PdoMapping.index)
  holds : smNumber.isSome → ∀ pdoMap ∈ listed pdoMappings, pdoMap.isFixed = false →
    od.HoldsEntries pdoMap
  frame : ∀ index, (∀ n ∈ smNumber, index ≠ Dictionary.smAssign n) →
    (∀ pdoMap ∈ listed pdoMappings, pdoMap.isFixed = false → index ≠ pdoMap.index) →
      od index = od₀ index

lemma directionListed_putPdoConfig (smNumber : Option UInt8) {pdoMappings : List PdoMapping}
    (hcounts : CountsFit pdoMappings)
    (hdistinct : (listed pdoMappings).Pairwise fun a b => a.index ≠ b.index)
    (hassign : ∀ pdoMap ∈ listed pdoMappings, ∀ n ∈ smNumber,
      pdoMap.index ≠ Dictionary.smAssign n) (od : Dictionary) :
    DirectionListed od (od.putPdoConfig smNumber pdoMappings) smNumber pdoMappings := by
  rcases smNumber with _ | n
  · exact ⟨(fun _ h => by cases h), (fun h => by cases h), fun _ _ _ => rfl⟩
  · have hlists := Dictionary.listsExactly_putDirection hcounts.entries hdistinct
      (fun m hm => hassign m hm n rfl) hcounts.maps od
    refine ⟨fun n' hn' => ?_, fun _ => hlists.holds, fun index hindex hmaps => ?_⟩
    · cases hn'
      exact hlists.assigns
    · exact hlists.frame index (hindex n rfl) hmaps

section

variable {info : SlaveInfo} {config : SlaveConfig} {od : Dictionary} {fixedBits : UInt16 → List ℕ}

/-- **What the dictionary lists after the configuration**: for each sync manager exactly the mappings
with entries, in order, with exactly the configured entries where they are not fixed.  The fixed
mappings and the types of the sync managers are as before. -/
structure ConfigListed (od₀ od : Dictionary) (info : SlaveInfo) (config : SlaveConfig) : Prop where
  assigns : ∀ direction smNumber, Direction.smNumber info direction = some smNumber →
    od.Assigns (Dictionary.smAssign smNumber)
      ((listed (config.mappingsOf direction)).map PdoMapping.index)
  holds : ∀ direction, (Direction.smNumber info direction).isSome →
    ∀ pdoMap ∈ listed (config.mappingsOf direction), pdoMap.isFixed = false →
      od.HoldsEntries pdoMap
  fixed : ∀ pdoMap ∈ config.listedMaps, pdoMap.isFixed = true →
    od pdoMap.index = od₀ pdoMap.index
  types : od 0x1C00 = od₀ 0x1C00

lemma configListed_withPdoConfig (hok : PdoConfigOk info config od fixedBits) :
    ConfigListed od (od.withPdoConfig info config) info config := by
  obtain ⟨hdistinct₁, hdistinct₂, hcross⟩ := List.pairwise_append.mp hok.distinct
  have hmem₁ {m : PdoMapping} (hm : m ∈ listed config.outputPdoMappings) : m ∈ config.listedMaps :=
    List.mem_append_left _ hm
  have hmem₂ {m : PdoMapping} (hm : m ∈ listed config.inputPdoMappings) : m ∈ config.listedMaps :=
    List.mem_append_right _ hm
  have hlisted₁ := directionListed_putPdoConfig info.processDataRxSmNumber
    hok.countsOutput hdistinct₁
    (fun m hm n hn => hok.notAssign m (hmem₁ hm) .output n hn) od
  have hlisted₂ := directionListed_putPdoConfig info.processDataTxSmNumber
    hok.countsInput hdistinct₂ (fun m hm n hn => hok.notAssign m (hmem₂ hm) .input n hn)
    (od.putPdoConfig info.processDataRxSmNumber config.outputPdoMappings)
  rw [Dictionary.withPdoConfig]
  generalize od.putPdoConfig info.processDataRxSmNumber config.outputPdoMappings = od₁
    at hlisted₁ hlisted₂
  generalize od₁.putPdoConfig info.processDataTxSmNumber config.inputPdoMappings = od₂
    at hlisted₂
  -- the objects of the first direction are not touched by the second
  have hkeepAssign {n : UInt8} (hn : info.processDataRxSmNumber = some n) :
      od₂ (Dictionary.smAssign n) = od₁ (Dictionary.smAssign n) := by
    refine hlisted₂.frame _ (fun m hm h => ?_) fun m hm _ h => ?_
    · exact SlaveInfo.smNumber_ne hn hm (Dictionary.smAssign_injective h)
    · exact hok.notAssign m (hmem₂ hm) .output n hn h.symm
  have hkeepMap {m : PdoMapping} (hm : m ∈ listed config.outputPdoMappings) :
      od₂ m.index = od₁ m.index := by
    refine hlisted₂.frame _ (fun n hn => hok.notAssign m (hmem₁ hm) .input n hn) fun m' hm' _ => ?_
    exact hcross m hm m' hm'
  refine ⟨?_, ?_, ?_, ?_⟩
  · rintro (_ | _) smNumber hsm
    · exact hlisted₂.assigns smNumber hsm
    · obtain ⟨⟨hlength, rest, hcount⟩, hnames⟩ := hlisted₁.assigns smNumber hsm
      have hkeep := hkeepAssign hsm
      refine ⟨⟨hlength, rest, ?_⟩, hnames.imp fun k map hname => ?_⟩
      · rw [hkeep]
        exact hcount
      · obtain ⟨byte0, byte1, rest, hdata, hmap⟩ := hname
        refine ⟨byte0, byte1, rest, ?_, hmap⟩
        rw [hkeep]
        exact hdata
  · rintro (_ | _) hsome pdoMap hmap hfixed
    · exact hlisted₂.holds hsome pdoMap hmap hfixed
    · exact (hlisted₁.holds hsome pdoMap hmap hfixed).congr (hkeepMap hmap)
  · intro m hm hfixed
    have hne {m' : PdoMapping} (hm' : m' ∈ config.listedMaps) (hnot : m'.isFixed = false) :
        m.index ≠ m'.index := by
      have hsymm : Std.Symm fun a b : PdoMapping => a.index ≠ b.index := ⟨fun _ _ h => h.symm⟩
      refine hok.distinct.forall hm hm' ?_
      rintro rfl
      rw [hfixed] at hnot
      cases hnot
    rw [hlisted₂.frame _ (fun n hn => hok.notAssign m hm .input n hn)
      fun m' hm' hnot => hne (hmem₂ hm') hnot]
    exact hlisted₁.frame _ (fun n hn => hok.notAssign m hm .output n hn)
      fun m' hm' hnot => hne (hmem₁ hm') hnot
  · rw [hlisted₂.frame _ (fun n _ => (Dictionary.smAssign_ne_types n).symm)
      fun m hm _ => (hok.notTypes m (hmem₂ hm)).symm]
    exact hlisted₁.frame _ (fun n _ => (Dictionary.smAssign_ne_types n).symm)
      fun m hm _ => (hok.notTypes m (hmem₁ hm)).symm

/-- The bits of a direction, none without a sync manager. -/
def directionBits (fixedBits : UInt16 → List ℕ) (info : SlaveInfo) (config : SlaveConfig)
    (direction : Direction) : ℕ :=
  match direction.smNumber info with
  | none => 0
  | some _ => totalBits fixedBits (config.mappingsOf direction)

/-- The total that is listed is the total that is read. -/
lemma ConfigListed.directionBits {od' : Dictionary} (hlisted : ConfigListed od od' info config)
    (hok : PdoConfigOk info config od fixedBits) (direction : Direction) :
    od'.DirectionBits info direction (directionBits fixedBits info config direction) := by
  rw [EtherCat.directionBits]
  rcases hsm : direction.smNumber info with _ | smNumber
  · exact .inl ⟨hsm, rfl⟩
  · refine .inr ⟨smNumber, hsm, ?_⟩
    have htype : od'.HasByte 0x1C00 (smNumber + 1) direction.smType := by
      obtain ⟨rest, hdata⟩ := hok.types direction smNumber hsm
      exact ⟨rest, by rw [hlisted.types]; exact hdata⟩
    have hassigns := hlisted.assigns direction smNumber hsm
    have hmem {m : PdoMapping} (hm : m ∈ listed (config.mappingsOf direction)) :
        m ∈ config.listedMaps := by
      cases direction
      · exact List.mem_append_right _ hm
      · exact List.mem_append_left _ hm
    have hmaps : ∀ m ∈ (listed (config.mappingsOf direction)).map
        (fun pdoMap => (pdoMap.index, mapBits fixedBits pdoMap)), od'.MapBits m.1 m.2 := by
      intro m hm
      obtain ⟨pdoMap, hpdoMap, rfl⟩ := List.mem_map.mp hm
      cases hfixed : pdoMap.isFixed
      · obtain ⟨hcount, hentries⟩ := hlisted.holds direction (by rw [hsm]; rfl) pdoMap hpdoMap hfixed
        simp only [mapBits, hfixed, Bool.false_eq_true, if_false]
        refine ⟨by rwa [List.length_map], ?_⟩
        rw [List.length_map, List.forall₂_map_right_iff]
        refine hentries.imp fun k entry hentry => ?_
        exact ⟨entry.bytes, hentry, entry.bitLength_bytes⟩
      · have hfixedBits := hok.fixed pdoMap (hmem hpdoMap) hfixed
        have hkeep := hlisted.fixed pdoMap (hmem hpdoMap) hfixed
        simp only [mapBits, hfixed, if_true]
        obtain ⟨⟨hlength, rest, hcount⟩, hentries⟩ := hfixedBits
        refine ⟨⟨hlength, rest, ?_⟩, hentries.imp fun k bits hentry => ?_⟩
        · rw [hkeep]
          exact hcount
        · obtain ⟨data, hdata, hbits⟩ := hentry
          refine ⟨data, ?_, hbits⟩
          rw [hkeep]
          exact hdata
    have htotal := Dictionary.SmBits.maps htype _ (by rwa [List.map_map]) hmaps
    rwa [List.map_map] at htotal

/-- The bytes that hold a number of bits. -/
lemma bytesOfBits_eq (bits : ℕ) : bytesOfBits bits = (bits + 7) / 8 := by
  rw [bytesOfBits]
  split <;> omega

/-- Few bits are not narrowed. -/
lemma toNat_narrowed {bits : ℕ} (hlt : 8 * ((bits + 7) / 8) < 2 ^ 16) :
    (narrowed bits).toNat = (bits + 7) / 8 := by
  rw [narrowed, UInt16.toNat_ofNat', bytesOfBits_eq, Nat.mod_eq_of_lt (by omega)]

/-- The buffers of both directions fit if they end in the address space. -/
lemma bothFit_iff (ramAddress : UInt16) {outputBits inputBits : ℕ}
    (hout : 8 * ((outputBits + 7) / 8) < 2 ^ 16) (hin : 8 * ((inputBits + 7) / 8) < 2 ^ 16) :
    BothFit ramAddress outputBits inputBits ↔
      ramAddress.toNat + 3 * ((outputBits + 7) / 8) + 3 * ((inputBits + 7) / 8) < 2 ^ 16 := by
  have houtput := toNat_narrowed hout
  have hinput := toNat_narrowed hin
  constructor
  · rintro ⟨hfirst, -, hsecond⟩
    rw [hfirst.toNat_next, houtput, hinput] at hsecond
    omega
  · intro hend
    have hfirst : SizeFits ramAddress (narrowed outputBits) := by
      constructor <;> rw [houtput] <;> omega
    refine ⟨hfirst, ?_, ?_⟩
    · rw [hinput]
      omega
    · rw [hfirst.toNat_next, houtput, hinput]
      omega

/-- **The configured process data is what is read back.**  For every slave and every configuration
that it can take, its dictionary lists exactly the configuration, and if the slave has process data
memory in which the bytes fit, each sync manager gets the bytes of all entries that are listed. -/
theorem pdoConfig_isRead {slave : Slave} {ods : Dictionaries}
    (hok : PdoConfigOk slave.info config (ods slave.info.slaveAddress) fixedBits) :
    ∃ accesses slave' od',
      Returns Dictionaries.answer (setPdoConfigToOdSlave config) slave ods accesses () slave'
          (Function.update ods slave.info.slaveAddress od') ∧
        ConfigListed (ods slave.info.slaveAddress) od' slave.info config ∧
        ∀ ramAddress, slave.info.pdoStartAddress = some ramAddress →
          8 * ((directionBits fixedBits slave.info config .output + 7) / 8) < 2 ^ 16 →
          8 * ((directionBits fixedBits slave.info config .input + 7) / 8) < 2 ^ 16 →
          ramAddress.toNat + 3 * ((directionBits fixedBits slave.info config .output + 7) / 8) +
            3 * ((directionBits fixedBits slave.info config .input + 7) / 8) < 2 ^ 16 →
          ∃ accesses' slave'',
            Returns Dictionaries.answer (setPdoToSmSlave config) slave'
                (Function.update ods slave.info.slaveAddress od') accesses' () slave''
                (Function.update ods slave.info.slaveAddress od') ∧
              ∀ direction smNumber, Direction.smNumber slave.info direction = some smNumber →
                accesses'.filterMap (Access.smLength smNumber) =
                  [(totalBits fixedBits (config.mappingsOf direction) + 7) / 8] := by
  obtain ⟨accesses, slave', hreturns, hcounts⟩ :=
    writesTo_setPdoConfigToOdSlave hok.countsOutput hok.countsInput slave _ ods rfl
  have hlisted := configListed_withPdoConfig hok
  refine ⟨accesses, slave', _, hreturns, hlisted, fun ramAddress hstart hout hin hend => ?_⟩
  have hserves := Dictionaries.serves (Function.update ods slave.info.slaveAddress
    ((ods slave.info.slaveAddress).withPdoConfig slave.info config)) slave.info
  rw [Function.update_self] at hserves
  have hchannels : ((ods slave.info.slaveAddress).withPdoConfig slave.info config).HasChannels := by
    obtain ⟨n, hn, rest, hdata⟩ := hok.channels
    refine ⟨n, hn, rest, ?_⟩
    rw [hlisted.types]
    exact hdata
  obtain ⟨accesses', slave'', -, hlength, hsm, -⟩ := returns_bothDirections hserves hchannels hstart
    (hlisted.directionBits hok .output) (hlisted.directionBits hok .input) hcounts.info config
  have houtput := toNat_narrowed hout
  have hinput := toNat_narrowed hin
  refine ⟨accesses', slave'', hsm ((bothFit_iff ramAddress hout hin).mpr hend),
    fun direction smNumber hnumber => ?_⟩
  have hbits : directionBits fixedBits slave.info config direction =
      totalBits fixedBits (config.mappingsOf direction) := by
    rw [directionBits, hnumber]
  rw [hlength smNumber (SlaveInfo.toNat_smNumber_lt hnumber), ← hbits]
  cases direction
  · have hne : slave.info.processDataRxSmNumber ≠ some smNumber := fun hrx =>
      SlaveInfo.smNumber_ne hrx hnumber rfl
    have htx : slave.info.processDataTxSmNumber = some smNumber := hnumber
    rw [if_neg hne, if_pos htx, List.nil_append, hinput]
  · have hne : slave.info.processDataTxSmNumber ≠ some smNumber := fun htx =>
      SlaveInfo.smNumber_ne hnumber htx rfl
    have hrx : slave.info.processDataRxSmNumber = some smNumber := hnumber
    rw [if_pos hrx, if_neg hne, List.append_nil, houtput]

end

/-! ## Two mappings, and what does not work -/

/-- A slave with both mailboxes and a kilobyte of process data memory from `ramAddress` on. -/
def ioSlave (ramAddress : Option UInt16) : Slave :=
  { Slave.default with
    info :=
      { smallRam with
        ramSizeKb := 2
        sm := mailboxTable ⟨0, 0x80, 0x1000⟩ ⟨1, 0x100, 0x1300⟩
        pdoStartAddress := ramAddress
        pdoRamSize := 0x400 } }

/-- A fixed mapping with the entry of the dictionary, and one with twelve bits. -/
def twoMappings : SlaveConfig :=
  { SlaveConfig.default with
    outputPdoMappings := [⟨true, 0x1600, [.new 0x7000 1 8]⟩, ⟨false, 0x1601, []⟩,
      ⟨false, 0x1602, [.new 0x7001 1 1, .new 0x7001 2 11]⟩] }

theorem twoMappings_isRead :
    ∃ accesses slave' od',
      Returns Dictionaries.answer (setPdoConfigToOdSlave twoMappings) (ioSlave (some 0x1400))
          (fun _ => byteOutput) accesses () slave'
          (Function.update (fun _ => byteOutput) (.stationAddress 1) od') ∧
        od'.Assigns 0x1C12 [0x1600, 0x1602] ∧
        ∃ accesses' slave'',
          Returns Dictionaries.answer (setPdoToSmSlave twoMappings) slave'
              (Function.update (fun _ => byteOutput) (.stationAddress 1) od') accesses' () slave''
              (Function.update (fun _ => byteOutput) (.stationAddress 1) od') ∧
            accesses'.filterMap (Access.smLength 2) = [3] := by
  have hsm : Direction.smNumber (ioSlave (some 0x1400)).info .output = some 2 := rfl
  have hentry : byteOutput.EntryBits 0x1600 1 8 :=
    ⟨[8, 1, 0, 0x70], rfl, by decide, by decide +kernel⟩
  have hlisted : twoMappings.listedMaps = [⟨true, 0x1600, [.new 0x7000 1 8]⟩,
      ⟨false, 0x1602, [.new 0x7001 1 1, .new 0x7001 2 11]⟩] := rfl
  have hok : PdoConfigOk (ioSlave (some 0x1400)).info twoMappings byteOutput fun _ => [8] := by
    refine ⟨⟨by decide, by decide⟩, ⟨by decide, by decide⟩, by decide, by decide, ?_,
      ⟨4, by decide, [], rfl⟩, ?_, ?_⟩
    · rintro pdoMap hmap (_ | _) smNumber hnumber <;> cases hnumber <;> revert pdoMap <;> decide
    · rintro (_ | _) smNumber hnumber <;> cases hnumber <;> exact ⟨[], rfl⟩
    · intro pdoMap hmap hfixed
      rw [hlisted] at hmap
      simp only [List.mem_cons, List.not_mem_nil, or_false] at hmap
      rcases hmap with rfl | rfl
      · exact ⟨⟨by decide, [], rfl⟩, .cons hentry .nil⟩
      · cases hfixed
  obtain ⟨accesses, slave', od', hreturns, hconfig, hread⟩ :=
    @pdoConfig_isRead _ _ (ioSlave (some 0x1400)) (fun _ => byteOutput) hok
  obtain ⟨accesses', slave'', hreturns', hlength⟩ := hread 0x1400 rfl (by decide) (by decide)
    (by decide)
  exact ⟨accesses, slave', od', hreturns, hconfig.assigns .output 2 hsm, accesses', slave'',
    hreturns', hlength .output 2 hsm⟩

/-- A mapping that overwrites the list it is in is not listed.  Without process data memory nothing
is computed, and at the end of the address space the second direction is not reached. -/
theorem configuration_isNotRead :
    (∃ slave' ods', (setPdoConfigToOdSlave
          { SlaveConfig.default with outputPdoMappings := [⟨false, 0x1C12, [.new 0x7000 1 8]⟩] }
          (ioSlave (some 0x1400))).run Dictionaries.answer (fun _ => byteOutput) =
        (.returned (.ok (), slave'), ods') ∧
        ¬ (ods' (.stationAddress 1)).Assigns 0x1C12 [0x1C12]) ∧
      (setPdoToSmSlave twoMappings (ioSlave none)).asked Dictionaries.answer
        (fun _ => byteAssigned) = [] ∧
      Panics Dictionaries.answer (setPdoToSmSlave twoMappings) (ioSlave (some 0xFFFF))
        (fun _ => byteAssigned) := by
  refine ⟨⟨_, _, rfl, ?_⟩, rfl, ⟨.arithmetic, _, rfl⟩⟩
  rintro ⟨-, hnames⟩
  rcases hnames with - | ⟨⟨byte0, byte1, rest, hdata, hmap⟩, -⟩
  cases hdata
  revert hmap
  decide +kernel

end EtherCat
