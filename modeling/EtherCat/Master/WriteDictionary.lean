import EtherCat.Master.ReadDictionary

/-!
# Writing the process data of a slave

What `set_pdo_config_to_od` writes into an object dictionary that stores what is written
(`putDirection`), and what the dictionary lists then.
-/

namespace EtherCat

open Rust Rust.Exec Rust.Method BitField Configure

/-- The fields of the object of an entry. -/
def PdoEntry.odFields (entry : PdoEntry) : List (Field × ℕ) :=
  [(OdPdoEntry.index, entry.index.toNat), (OdPdoEntry.subIndex, entry.subIndex.toNat),
    (OdPdoEntry.bitLength, entry.bitLength.toNat)]

/-- The object of an entry. -/
def PdoEntry.bytes (entry : PdoEntry) : List UInt8 :=
  Field.putAll (List.replicate OdPdoEntry.size 0) entry.odFields

lemma PdoEntry.odFields_fit (entry : PdoEntry) :
    ∀ f ∈ entry.odFields.map Prod.fst, f.Fits (List.replicate OdPdoEntry.size 0) := by
  have hfits : ∀ f ∈ [OdPdoEntry.index, OdPdoEntry.subIndex, OdPdoEntry.bitLength],
      f.Fits (List.replicate OdPdoEntry.size 0) := by decide
  exact hfits

lemma PdoEntry.odPdoEntry_eq (entry : PdoEntry) : entry.odPdoEntry = .ok entry.bytes :=
  Field.setAll_eq_ok_iff.mpr ⟨entry.odFields_fit, rfl⟩

/-- The object holds the number of bits of the entry. -/
lemma PdoEntry.bitLength_bytes (entry : PdoEntry) :
    OdPdoEntry.bitLength.Fits entry.bytes ∧
      OdPdoEntry.bitLength.val entry.bytes = entry.bitLength.toNat := by
  have hdisjoint : (entry.odFields.map Prod.fst).Pairwise Field.Disjoint := by
    have h : [OdPdoEntry.index, OdPdoEntry.subIndex, OdPdoEntry.bitLength].Pairwise
        Field.Disjoint := by decide +kernel
    exact h
  have hmem : (OdPdoEntry.bitLength, entry.bitLength.toNat) ∈ entry.odFields := by simp [odFields]
  constructor
  · show _ < _
    rw [PdoEntry.bytes, Field.length_putAll, List.length_replicate]
    decide
  · rw [PdoEntry.bytes, Field.val_putAll_of_mem entry.odFields_fit hdisjoint hmem]
    exact Nat.mod_eq_of_lt entry.bitLength.toNat_lt

namespace Dictionary

lemma write_self (od : Dictionary) (index : UInt16) (subIndex : UInt8) (data : List UInt8) :
    od.write index subIndex data index subIndex = some data := if_pos ⟨rfl, rfl⟩

lemma write_of_ne_index {od : Dictionary} {index i : UInt16} (h : i ≠ index) (subIndex : UInt8)
    (data : List UInt8) : od.write index subIndex data i = od i := by
  funext s
  exact if_neg fun hand => h hand.1

lemma write_of_ne_subIndex {od : Dictionary} {subIndex s : UInt8} (h : s ≠ subIndex)
    (index i : UInt16) (data : List UInt8) : od.write index subIndex data i s = od i s :=
  if_neg fun hand => h hand.2

/-! ## What is written -/

/-- The entries of a mapping, those before `entryIndex` written already. -/
def putEntries (od : Dictionary) (map : UInt16) : List PdoEntry → ℕ → Dictionary
  | [], _ => od
  | entry :: entries, entryIndex =>
    (od.write map (.ofNat (entryIndex + 1)) entry.bytes).putEntries map entries (entryIndex + 1)

/-- The mapping of one PDO. -/
def putMapping (od : Dictionary) (smAssign : UInt16) (mapIndex : ℕ) (pdoMap : PdoMapping) :
    Dictionary :=
  let od := od.write smAssign (.ofNat mapIndex) (toLeBytes 2 pdoMap.index.toNat)
  if pdoMap.isFixed then od
  else ((od.write pdoMap.index 0 [0]).putEntries pdoMap.index pdoMap.entries 0).write pdoMap.index 0
    [.ofNat pdoMap.entries.length]

/-- The mappings with entries. -/
def putMappings (od : Dictionary) (smAssign : UInt16) : List PdoMapping → ℕ → Dictionary
  | [], _ => od
  | pdoMap :: pdoMappings, mapIndex =>
    (od.putMapping smAssign (mapIndex + 1) pdoMap).putMappings smAssign pdoMappings (mapIndex + 1)

/-- All mappings of a direction. -/
def putDirection (od : Dictionary) (smAssign : UInt16) (pdoMappings : List PdoMapping) :
    Dictionary :=
  ((od.write smAssign 0 [0]).putMappings smAssign pdoMappings 0).write smAssign 0
    [.ofNat pdoMappings.length]

end Dictionary

/-- The mappings with entries. -/
def listed (pdoMappings : List PdoMapping) : List PdoMapping :=
  pdoMappings.filter fun pdoMap => !pdoMap.entries.isEmpty

/-! ## The code writes it -/

/-- The method leaves the dictionary `od'` in a slave with the dictionary `od`. -/
def WritesTo {α : Type} (m : Configure Slave α) (slave : Slave) (od : Dictionary) (a : α)
    (od' : Dictionary) : Prop :=
  ∀ ods : Dictionaries, ods slave.info.slaveAddress = od →
    ∃ accesses slave', Returns Dictionaries.answer m slave ods accesses a slave'
      (Function.update ods slave.info.slaveAddress od') ∧ OnlyCounts slave slave'

lemma writesTo_pure {α : Type} (a : α) (slave : Slave) (od : Dictionary) :
    WritesTo (pure a) slave od a od := by
  rintro ods rfl
  rw [Function.update_eq_self]
  exact ⟨[], slave, returns_pure a slave ods, .refl slave⟩

lemma writesTo_ofExec {α : Type} {x : Exec α} {a : α} (hx : x = .ok a) (slave : Slave)
    (od : Dictionary) : WritesTo (.ofExec x) slave od a od := by
  rintro ods rfl
  rw [Function.update_eq_self]
  exact ⟨[], slave, returns_ofExec hx slave ods, .refl slave⟩

lemma writesTo_get (slave : Slave) (od : Dictionary) : WritesTo .get slave od slave od := by
  rintro ods rfl
  rw [Function.update_eq_self]
  exact ⟨[], slave, returns_get slave ods, .refl slave⟩

lemma writesTo_writeSdo (kind : SdoError → ConfigErrorKind) (index : UInt16) (subIndex : UInt8)
    (data : List UInt8) (slave : Slave) (od : Dictionary) :
    WritesTo (writeSdo kind index subIndex data) slave od () (od.write index subIndex data) := by
  rintro ods rfl
  exact ⟨_, _, returns_writeSdo kind rfl, onlyCounts_incrementMbCount slave⟩

lemma WritesTo.bind {α β : Type} {m : Configure Slave α} {f : α → Configure Slave β} {slave : Slave}
    {od od' od'' : Dictionary} {a : α} {b : β} (hm : WritesTo m slave od a od')
    (hf : ∀ slave', slave'.info = slave.info → WritesTo (f a) slave' od' b od'') :
    WritesTo (m >>= f) slave od b od'' := by
  rintro ods hods
  obtain ⟨accesses, slave', hreturns, hcounts⟩ := hm ods hods
  have hinfo := hcounts.info
  obtain ⟨accesses', slave'', hreturns', hcounts'⟩ := hf slave' hinfo
    (Function.update ods slave.info.slaveAddress od') (by rw [hinfo, Function.update_self])
  rw [hinfo, Function.update_idem] at hreturns'
  exact ⟨_, slave'', hreturns.bind hreturns', hcounts.trans hcounts'⟩

lemma writesTo_writeEntries (map : UInt16) {entries : List PdoEntry} {entryIndex : ℕ}
    (hlength : entryIndex + entries.length < 256) (slave : Slave) (od : Dictionary) :
    WritesTo (writeEntries map entries entryIndex) slave od (entryIndex + entries.length)
      (od.putEntries map entries entryIndex) := by
  induction entries generalizing entryIndex slave od with
  | nil => exact writesTo_pure _ slave od
  | cons entry entries ih =>
      rw [List.length_cons] at hlength ⊢
      refine (writesTo_ofExec entry.odPdoEntry_eq slave od).bind fun slave₁ _ => ?_
      refine (writesTo_ofExec (addUpTo_eq_ok_iff.mpr ⟨by omega, rfl⟩) slave₁ od).bind
        fun slave₂ _ => ?_
      refine (writesTo_writeSdo _ map _ _ slave₂ od).bind fun slave₃ _ => ?_
      rw [show entryIndex + (entries.length + 1) = entryIndex + 1 + entries.length by omega]
      exact ih (by omega) slave₃ _

lemma writesTo_writeMapping (smAssign : UInt16) (mapIndex : ℕ) {pdoMap : PdoMapping}
    (hlength : pdoMap.entries.length < 256) (slave : Slave) (od : Dictionary) :
    WritesTo (writeMapping smAssign mapIndex pdoMap) slave od ()
      (od.putMapping smAssign mapIndex pdoMap) := by
  refine (writesTo_writeSdo _ smAssign _ _ slave od).bind fun slave₁ _ => ?_
  rw [Dictionary.putMapping]
  split
  · exact writesTo_pure () slave₁ _
  · refine (writesTo_writeSdo _ pdoMap.index _ _ slave₁ _).bind fun slave₂ _ => ?_
    have hzero : 0 + pdoMap.entries.length < 256 := by omega
    have hentries := writesTo_writeEntries pdoMap.index hzero slave₂
    rw [Nat.zero_add] at hentries
    refine (hentries _).bind fun slave₃ _ => ?_
    exact writesTo_writeSdo _ pdoMap.index _ _ slave₃ _

lemma writesTo_writeMappings (smAssign : UInt16) {pdoMappings : List PdoMapping} {mapIndex : ℕ}
    (hentries : ∀ pdoMap ∈ listed pdoMappings, pdoMap.entries.length < 256)
    (hlength : mapIndex + (listed pdoMappings).length < 256) (slave : Slave) (od : Dictionary) :
    WritesTo (writeMappings smAssign pdoMappings mapIndex) slave od
      (mapIndex + (listed pdoMappings).length)
      (od.putMappings smAssign (listed pdoMappings) mapIndex) := by
  induction pdoMappings generalizing mapIndex slave od with
  | nil => exact writesTo_pure _ slave od
  | cons pdoMap pdoMappings ih =>
      rw [writeMappings]
      by_cases hempty : pdoMap.entries.isEmpty = true
      · have hlisted : listed (pdoMap :: pdoMappings) = listed pdoMappings := by
          rw [listed, List.filter_cons_of_neg (by simp [hempty])]
          rfl
        rw [if_pos hempty]
        rw [hlisted] at hentries hlength ⊢
        exact ih hentries hlength slave od
      · have hlisted : listed (pdoMap :: pdoMappings) = pdoMap :: listed pdoMappings := by
          rw [listed, List.filter_cons_of_pos (by simpa using hempty)]
          rfl
        rw [if_neg hempty]
        rw [hlisted] at hentries hlength ⊢
        rw [List.length_cons] at hlength ⊢
        refine (writesTo_ofExec (addUpTo_eq_ok_iff.mpr ⟨by omega, rfl⟩) slave od).bind
          fun slave₁ _ => ?_
        refine (writesTo_writeMapping smAssign _ (hentries pdoMap (List.mem_cons_self ..)) slave₁
          od).bind fun slave₂ _ => ?_
        rw [show mapIndex + ((listed pdoMappings).length + 1) =
          mapIndex + 1 + (listed pdoMappings).length by omega]
        exact ih (fun m hm => hentries m (List.mem_cons_of_mem _ hm)) (by omega) slave₂ _

/-- The sync manager of a direction, if there is one. -/
def Dictionary.putPdoConfig (od : Dictionary) (smNumber : Option UInt8)
    (pdoMappings : List PdoMapping) : Dictionary :=
  match smNumber with
  | none => od
  | some smNumber => od.putDirection (Dictionary.smAssign smNumber) (listed pdoMappings)

/-- Counts that fit into bytes. -/
structure CountsFit (pdoMappings : List PdoMapping) : Prop where
  maps : (listed pdoMappings).length < 256
  entries : ∀ pdoMap ∈ listed pdoMappings, pdoMap.entries.length < 256

lemma writesTo_setPdoConfigToOdUtility (config : SlaveConfig) (isOutput : Bool)
    (hfits : CountsFit (if isOutput then config.outputPdoMappings else config.inputPdoMappings))
    (slave : Slave) (od : Dictionary) :
    WritesTo (setPdoConfigToOdUtility config isOutput) slave od ()
      (od.putPdoConfig (if isOutput then slave.info.processDataRxSmNumber
          else slave.info.processDataTxSmNumber)
        (if isOutput then config.outputPdoMappings else config.inputPdoMappings)) := by
  have hdirection (pdoMappings : List PdoMapping) (hfits : CountsFit pdoMappings)
      (smNumber : Option UInt8) (slave : Slave) :
      WritesTo (match smNumber with
        | none => pure ()
        | some smNumber => do
          let smAssign := 0x1C10 + smNumber.toUInt16
          writeSdo .clearPdoMappings smAssign 0 [0]
          let mapIndex ← writeMappings smAssign pdoMappings 0
          writeSdo .setNumberOfPdoMappings smAssign 0 [.ofNat mapIndex]) slave od ()
        (od.putPdoConfig smNumber pdoMappings) := by
    rcases smNumber with _ | smNumber
    · exact writesTo_pure () slave od
    · refine (writesTo_writeSdo _ _ _ _ slave od).bind fun slave₁ _ => ?_
      have hzero : 0 + (listed pdoMappings).length < 256 := by
        have := hfits.maps
        omega
      have hmappings := writesTo_writeMappings (0x1C10 + smNumber.toUInt16) hfits.entries hzero slave₁
      rw [Nat.zero_add] at hmappings
      exact (hmappings _).bind fun slave₂ _ => writesTo_writeSdo _ _ _ _ slave₂ _
  refine (writesTo_get slave od).bind fun slave₁ _ => ?_
  cases isOutput
  · exact hdirection _ hfits _ slave₁
  · exact hdirection _ hfits _ slave₁

lemma writesTo_setPdoConfigToOdSlave {config : SlaveConfig}
    (hout : CountsFit config.outputPdoMappings) (hin : CountsFit config.inputPdoMappings)
    (slave : Slave) (od : Dictionary) :
    WritesTo (setPdoConfigToOdSlave config) slave od ()
      ((od.putPdoConfig slave.info.processDataRxSmNumber config.outputPdoMappings).putPdoConfig
        slave.info.processDataTxSmNumber config.inputPdoMappings) := by
  have houtput := writesTo_setPdoConfigToOdUtility config true hout slave od
  refine houtput.bind fun slave₁ hinfo => ?_
  have hinput := writesTo_setPdoConfigToOdUtility config false hin slave₁
  rw [hinfo] at hinput
  exact hinput _

/-! ## What the dictionary lists then -/

namespace Dictionary

/-- The object holds exactly the entries of a mapping. -/
def HoldsEntries (od : Dictionary) (pdoMap : PdoMapping) : Prop :=
  od.Counts pdoMap.index pdoMap.entries.length ∧
    List.Forall₂ (fun k entry => od pdoMap.index (.ofNat k) = some entry.bytes)
      (List.range' 1 pdoMap.entries.length) pdoMap.entries

lemma putEntries_of_ne_index {od : Dictionary} {map index : UInt16} (h : index ≠ map)
    (entries : List PdoEntry) (entryIndex : ℕ) :
    od.putEntries map entries entryIndex index = od index := by
  induction entries generalizing od entryIndex with
  | nil => rfl
  | cons entry entries ih => rw [putEntries, ih, write_of_ne_index h]

lemma putEntries_of_le {od : Dictionary} {map : UInt16} {entries : List PdoEntry} {entryIndex : ℕ}
    (hlength : entryIndex + entries.length < 256) {subIndex : UInt8}
    (hle : subIndex.toNat ≤ entryIndex) :
    od.putEntries map entries entryIndex map subIndex = od map subIndex := by
  induction entries generalizing od entryIndex with
  | nil => rfl
  | cons entry entries ih =>
      rw [List.length_cons] at hlength
      have hne : subIndex ≠ .ofNat (entryIndex + 1) := by
        rintro rfl
        rw [UInt8.toNat_ofNat', Nat.mod_eq_of_lt (by omega)] at hle
        omega
      rw [putEntries, ih (by omega) (by omega), write_of_ne_subIndex hne]

/-- The entries are found again. -/
lemma forall₂_putEntries (od : Dictionary) (map : UInt16) (entries : List PdoEntry)
    (entryIndex : ℕ) (hlength : entryIndex + entries.length < 256) :
    List.Forall₂ (fun k entry =>
        od.putEntries map entries entryIndex map (.ofNat k) = some entry.bytes)
      (List.range' (entryIndex + 1) entries.length) entries := by
  induction entries generalizing od entryIndex with
  | nil => exact .nil
  | cons entry entries ih =>
      rw [List.length_cons] at hlength ⊢
      rw [List.range'_succ]
      refine .cons ?_ (ih _ _ (by omega))
      have hle : (UInt8.ofNat (entryIndex + 1)).toNat ≤ entryIndex + 1 := by
        rw [UInt8.toNat_ofNat']
        exact Nat.mod_le _ _
      rw [putEntries, putEntries_of_le (by omega) hle, write_self]

lemma putMapping_of_ne {od : Dictionary} {smAssign index : UInt16} {mapIndex : ℕ}
    {pdoMap : PdoMapping} (hassign : index ≠ smAssign)
    (hmap : pdoMap.isFixed = false → index ≠ pdoMap.index) :
    od.putMapping smAssign mapIndex pdoMap index = od index := by
  rw [putMapping]
  cases hfixed : pdoMap.isFixed
  · have hne := hmap hfixed
    rw [if_neg (by decide), write_of_ne_index hne, putEntries_of_ne_index hne, write_of_ne_index hne,
      write_of_ne_index hassign]
  · rw [if_pos rfl, write_of_ne_index hassign]

/-- The mappings that are assigned already stay. -/
lemma putMapping_smAssign {od : Dictionary} {smAssign : UInt16} {mapIndex : ℕ}
    {pdoMap : PdoMapping} (hmap : smAssign ≠ pdoMap.index) :
    od.putMapping smAssign mapIndex pdoMap smAssign =
      od.write smAssign (.ofNat mapIndex) (toLeBytes 2 pdoMap.index.toNat) smAssign := by
  rw [putMapping]
  split
  · rfl
  · rw [write_of_ne_index hmap, putEntries_of_ne_index hmap, write_of_ne_index hmap]

lemma holdsEntries_putMapping (od : Dictionary) (smAssign : UInt16) (mapIndex : ℕ)
    {pdoMap : PdoMapping} (hfixed : pdoMap.isFixed = false)
    (hlength : pdoMap.entries.length < 256) :
    (od.putMapping smAssign mapIndex pdoMap).HoldsEntries pdoMap := by
  rw [putMapping, hfixed, if_neg (by decide)]
  refine ⟨⟨hlength, [], write_self ..⟩, ?_⟩
  have hentries := forall₂_putEntries ((od.write smAssign (.ofNat mapIndex)
    (toLeBytes 2 pdoMap.index.toNat)).write pdoMap.index 0 [0]) pdoMap.index pdoMap.entries 0
    (by omega)
  refine List.forall₂_iff_get.mpr ⟨by simp, fun i hi hi' => ?_⟩
  have hentry := (List.forall₂_iff_get.mp hentries).2 i hi hi'
  have hne : UInt8.ofNat ((List.range' 1 pdoMap.entries.length).get ⟨i, hi⟩) ≠ 0 := by
    intro h
    have := congrArg UInt8.toNat h
    rw [UInt8.toNat_ofNat'] at this
    simp only [List.get_eq_getElem, List.getElem_range', UInt8.reduceToNat] at this
    omega
  rw [write_of_ne_subIndex hne]
  exact hentry

lemma HoldsEntries.congr {od od' : Dictionary} {pdoMap : PdoMapping} (h : od.HoldsEntries pdoMap)
    (heq : od' pdoMap.index = od pdoMap.index) : od'.HoldsEntries pdoMap := by
  obtain ⟨⟨hlength, rest, hcount⟩, hentries⟩ := h
  refine ⟨⟨hlength, rest, ?_⟩, ?_⟩
  · rw [heq]
    exact hcount
  · rw [heq]
    exact hentries

/-- What is listed after the mappings of a direction were written: they are named, in order,
those that are not fixed hold their entries, and nothing else has changed. -/
structure Lists (od₀ od : Dictionary) (smAssign : UInt16) (mapIndex : ℕ)
    (pdoMappings : List PdoMapping) : Prop where
  names : List.Forall₂ (od.Names smAssign) (List.range' (mapIndex + 1) pdoMappings.length)
    (pdoMappings.map PdoMapping.index)
  holds : ∀ pdoMap ∈ pdoMappings, pdoMap.isFixed = false → od.HoldsEntries pdoMap
  before : ∀ subIndex : UInt8, subIndex.toNat ≤ mapIndex →
    od smAssign subIndex = od₀ smAssign subIndex
  frame : ∀ index, index ≠ smAssign →
    (∀ pdoMap ∈ pdoMappings, pdoMap.isFixed = false → index ≠ pdoMap.index) → od index = od₀ index

/-- The two bytes of an index name it. -/
lemma names_of_eq {od : Dictionary} {smAssign map : UInt16} {k : ℕ}
    (h : od smAssign (.ofNat k) = some (toLeBytes 2 map.toNat)) : od.Names smAssign k map := by
  refine ⟨_, _, [], h, ?_⟩
  have hbytes : fromLeBytes (toLeBytes 2 map.toNat) = map.toNat := by
    rw [fromLeBytes_toLeBytes]
    exact Nat.mod_eq_of_lt map.toNat_lt
  show UInt16.ofNat (fromLeBytes (toLeBytes 2 map.toNat)) = map
  rw [hbytes, UInt16.ofNat_toNat]

lemma lists_putMappings {smAssign : UInt16} {pdoMappings : List PdoMapping}
    (hentries : ∀ pdoMap ∈ pdoMappings, pdoMap.entries.length < 256)
    (hdistinct : pdoMappings.Pairwise fun a b => a.index ≠ b.index)
    (hassign : ∀ pdoMap ∈ pdoMappings, pdoMap.index ≠ smAssign) (od : Dictionary) (mapIndex : ℕ)
    (hlength : mapIndex + pdoMappings.length < 256) :
    Lists od (od.putMappings smAssign pdoMappings mapIndex) smAssign mapIndex pdoMappings := by
  induction pdoMappings generalizing od mapIndex with
  | nil => exact ⟨.nil, (fun _ h => by cases h), fun _ _ => rfl, fun _ _ _ => rfl⟩
  | cons pdoMap pdoMappings ih =>
      obtain ⟨hhead, htail⟩ := List.pairwise_cons.mp hdistinct
      rw [List.length_cons] at hlength
      have hlists := ih (fun m hm => hentries m (List.mem_cons_of_mem _ hm)) htail
        (fun m hm => hassign m (List.mem_cons_of_mem _ hm))
        (od.putMapping smAssign (mapIndex + 1) pdoMap) (mapIndex + 1) (by omega)
      have hne : smAssign ≠ pdoMap.index := (hassign pdoMap (List.mem_cons_self ..)).symm
      have htoNat : (UInt8.ofNat (mapIndex + 1)).toNat = mapIndex + 1 := by
        rw [UInt8.toNat_ofNat', Nat.mod_eq_of_lt (by omega)]
      rw [putMappings]
      refine ⟨?_, fun m hm hfixed => ?_, fun subIndex hle => ?_, fun index hindex hmaps => ?_⟩
      · rw [List.length_cons, List.range'_succ, List.map_cons]
        refine .cons (names_of_eq ?_) hlists.names
        rw [hlists.before _ (by omega), putMapping_smAssign hne, write_self]
      · rcases List.mem_cons.mp hm with rfl | hm
        · refine (holdsEntries_putMapping od smAssign (mapIndex + 1) hfixed
            (hentries m (List.mem_cons_self ..))).congr ?_
          exact hlists.frame m.index hne.symm fun m' hm' _ => hhead m' hm'
        · exact hlists.holds m hm hfixed
      · have hnot : subIndex ≠ .ofNat (mapIndex + 1) := by
          rintro rfl
          omega
        rw [hlists.before _ (by omega), putMapping_smAssign hne, write_of_ne_subIndex hnot]
      · rw [hlists.frame index hindex fun m hm => hmaps m (List.mem_cons_of_mem _ hm)]
        exact putMapping_of_ne hindex (hmaps pdoMap (List.mem_cons_self ..))

/-- **What a dictionary lists for a sync manager**: exactly the mappings, in order, and exactly the
entries of those that are not fixed.  Every other object is as it was. -/
structure ListsExactly (od₀ od : Dictionary) (smAssign : UInt16) (pdoMappings : List PdoMapping) :
    Prop where
  assigns : od.Assigns smAssign (pdoMappings.map PdoMapping.index)
  holds : ∀ pdoMap ∈ pdoMappings, pdoMap.isFixed = false → od.HoldsEntries pdoMap
  frame : ∀ index, index ≠ smAssign →
    (∀ pdoMap ∈ pdoMappings, pdoMap.isFixed = false → index ≠ pdoMap.index) → od index = od₀ index

lemma listsExactly_putDirection {smAssign : UInt16} {pdoMappings : List PdoMapping}
    (hentries : ∀ pdoMap ∈ pdoMappings, pdoMap.entries.length < 256)
    (hdistinct : pdoMappings.Pairwise fun a b => a.index ≠ b.index)
    (hassign : ∀ pdoMap ∈ pdoMappings, pdoMap.index ≠ smAssign)
    (hlength : pdoMappings.length < 256) (od : Dictionary) :
    ListsExactly od (od.putDirection smAssign pdoMappings) smAssign pdoMappings := by
  have hlists := lists_putMappings hentries hdistinct hassign (od.write smAssign 0 [0]) 0
    (by omega)
  rw [putDirection]
  refine ⟨⟨⟨by rwa [List.length_map], [], ?_⟩, ?_⟩, fun m hm hfixed => ?_, fun index hindex hmaps => ?_⟩
  · rw [write_self, List.length_map]
  · rw [List.length_map]
    refine List.forall₂_iff_get.mpr ⟨by simp, fun i hi hi' => ?_⟩
    obtain ⟨byte0, byte1, rest, hdata, hmap⟩ := (List.forall₂_iff_get.mp hlists.names).2 i hi hi'
    refine ⟨byte0, byte1, rest, ?_, hmap⟩
    have hne : UInt8.ofNat ((List.range' 1 pdoMappings.length).get ⟨i, hi⟩) ≠ 0 := by
      intro h
      have := congrArg UInt8.toNat h
      rw [UInt8.toNat_ofNat'] at this
      simp only [List.length_range'] at hi
      simp only [List.get_eq_getElem, List.getElem_range', UInt8.reduceToNat] at this
      omega
    rw [write_of_ne_subIndex hne]
    exact hdata
  · refine (hlists.holds m hm hfixed).congr ?_
    exact write_of_ne_index (hassign m hm) _ _
  · rw [write_of_ne_index hindex, hlists.frame index hindex hmaps, write_of_ne_index hindex]

end Dictionary

end EtherCat
