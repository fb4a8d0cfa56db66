import EtherCat.Master.Dictionary

/-!
# Reading the process data of a slave

What `set_pdo_to_sm` does to a slave whose object dictionary can be read: the sync managers get the
number of bytes that the entries need, narrowed to 16 bits, and an FMMU is set up for each.  With an
object that is missing it returns an error, and with one that cannot be used it panics.
-/

namespace EtherCat

open Rust Rust.Exec Rust.Method BitField Configure

/-- The slave has counted mailbox messages, and nothing else. -/
def OnlyCounts (slave slave' : Slave) : Prop :=
  ∃ count, slave' = { slave with mailboxCount := count }

lemma OnlyCounts.refl (slave : Slave) : OnlyCounts slave slave := ⟨slave.mailboxCount, rfl⟩

lemma OnlyCounts.trans {slave slave' slave'' : Slave} (h : OnlyCounts slave slave')
    (h' : OnlyCounts slave' slave'') : OnlyCounts slave slave'' := by
  obtain ⟨_, rfl⟩ := h
  obtain ⟨count, rfl⟩ := h'
  exact ⟨count, rfl⟩

lemma OnlyCounts.info {slave slave' : Slave} (h : OnlyCounts slave slave') :
    slave'.info = slave.info := by
  obtain ⟨count, rfl⟩ := h
  rfl

/-- The access reads an object. -/
def Access.IsSdoRead : Access → Prop
  | readSdo .. => True
  | _ => False

section

variable {σ : Type} {h : σ → (access : Access) → access.Answer × σ} {w : σ} {info : SlaveInfo}
  {od : Dictionary}

/-! ## Reading objects -/

/-- The method reads objects of the slave and returns `a`. -/
def ReadsTo {α : Type} (h : σ → (access : Access) → access.Answer × σ) (w : σ)
    (m : Configure Slave α) (slave : Slave) (a : α) : Prop :=
  ∃ reads slave', Returns h m slave w reads a slave' w ∧ OnlyCounts slave slave' ∧
    ∀ read ∈ reads, read.IsSdoRead

/-- **The method reads what the dictionary says**: a value, an error for an object that is not
there, and a panic for one that cannot be used. -/
def Reads {α : Type} (h : σ → (access : Access) → access.Answer × σ) (w : σ) (info : SlaveInfo)
    (od : Dictionary) (m : Configure Slave α) (slave : Slave) : Reading α → Prop
  | .missing => Refuses h w info od → Throws h m slave w
  | .broken => Panics h m slave w
  | .value a => ReadsTo h w m slave a

lemma reads_value {α : Type} (a : α) (slave : Slave) :
    Reads h w info od (pure a) slave (.value a) :=
  ⟨[], slave, returns_pure a slave w, .refl slave, fun _ hread => by cases hread⟩

lemma reads_ofExec {α : Type} (x : Exec α) (slave : Slave) :
    Reads h w info od (.ofExec x) slave (.ofExec x) := by
  rcases x with e | a
  · exact panics_ofExec rfl slave w
  · exact ⟨[], slave, returns_ofExec rfl slave w, .refl slave, fun _ hread => by cases hread⟩

lemma Reads.bind {α β : Type} {m : Configure Slave α} {f : α → Configure Slave β} {slave : Slave}
    {r : Reading α} {g : α → Reading β} (hm : Reads h w info od m slave r)
    (hf : ∀ a slave', r = .value a → slave'.info = slave.info →
      Reads h w info od (f a) slave' (g a)) : Reads h w info od (m >>= f) slave (r >>= g) := by
  cases r with
  | missing => exact fun hrefuses => (hm hrefuses).bind f
  | broken => exact Panics.bind hm f
  | value a =>
      obtain ⟨reads, slave', hreturns, hcounts, hreads⟩ := hm
      have hrest := hf a slave' rfl hcounts.info
      rw [Reading.value_bind]
      rcases hg : g a with _ | _ | b
      · rw [hg] at hrest
        exact fun hrefuses => hreturns.bind_throws (hrest hrefuses)
      · rw [hg] at hrest
        exact hreturns.bind_panics hrest
      · rw [hg] at hrest
        obtain ⟨reads', slave'', hreturns', hcounts', hreads'⟩ := hrest
        refine ⟨reads ++ reads', slave'', hreturns.bind hreturns', hcounts.trans hcounts', ?_⟩
        exact fun read hread => (List.mem_append.mp hread).elim (hreads read) (hreads' read)

/-- A computation that returns is no part of what is read. -/
lemma Reads.of_ok {α β : Type} {x : Exec α} {a : α} {f : α → Configure Slave β} {slave : Slave}
    {r : Reading β} (hx : x = .ok a) (hf : Reads h w info od (f a) slave r) :
    Reads h w info od (.ofExec x >>= f) slave r := by
  subst hx
  exact hf

lemma reads_object (hserves : Serves h w info od) {slave : Slave} (hslave : slave.info = info)
    (kind : SdoError → ConfigErrorKind) (index : UInt16) (subIndex : UInt8) :
    Reads h w info od (readSdo kind index subIndex) slave (od.object index subIndex) := by
  unfold Dictionary.object
  rcases hdata : od index subIndex with _ | data
  · intro hrefuses
    obtain ⟨e, hop⟩ := hrefuses slave index subIndex hslave hdata
    exact throws_readSdo kind hop
  · refine ⟨_, _, returns_readSdo kind (hserves.readSdo slave index subIndex data hslave hdata),
      ⟨_, rfl⟩, fun read hread => ?_⟩
    cases List.mem_singleton.mp hread
    trivial

/-- The first byte of an object. -/
lemma reads_firstByte (hserves : Serves h w info od) {slave : Slave} (hslave : slave.info = info)
    (kind : SdoError → ConfigErrorKind) (objectIndex : UInt16) (subIndex : UInt8) {α : Type}
    {f : UInt8 → Configure Slave α} {g : UInt8 → Reading α}
    (hf : ∀ byte slave', slave'.info = info → Reads h w info od (f byte) slave' (g byte)) :
    Reads h w info od
      (readSdo kind objectIndex subIndex >>= fun data => .ofExec (index data 0) >>= f) slave
      (od.firstByte objectIndex subIndex >>= g) := by
  rw [Dictionary.firstByte, Reading.bind_assoc]
  refine (reads_object hserves hslave kind objectIndex subIndex).bind fun data slave' _ hslave' => ?_
  refine (reads_ofExec _ slave').bind fun byte slave'' _ hslave'' => ?_
  exact hf byte slave'' (hslave''.trans (hslave'.trans hslave))

/-- The bits of the entries, which do not overflow. -/
lemma reads_readEntries (hserves : Serves h w info od) (map : UInt16) {indices : List ℕ}
    {slave : Slave} (hslave : slave.info = info) {total : ℕ}
    (hlt : total + 255 * indices.length < 2 ^ 32) :
    Reads h w info od (readEntries map indices total) slave (od.entriesBits map indices total) := by
  induction indices generalizing slave total with
  | nil => exact reads_value total slave
  | cons k indices ih =>
      rw [List.length_cons] at hlt
      refine (reads_object hserves hslave _ map (.ofNat k)).bind fun entry slave' _ hslave' => ?_
      refine (reads_ofExec _ slave').bind fun bits slave'' hbits hslave'' => ?_
      have hbits := Dictionary.bitLength_lt hbits
      have hsum : addUpTo 32 total bits = .ok (total + bits) :=
        addUpTo_eq_ok_iff.mpr ⟨by omega, rfl⟩
      exact .of_ok hsum (ih (hslave''.trans (hslave'.trans hslave)) (by omega))

/-- The bits of the mappings: at most 255 entries each. -/
lemma reads_readMappings (hserves : Serves h w info od) (smAssign : UInt16) {indices : List ℕ}
    {slave : Slave} (hslave : slave.info = info) {total : ℕ}
    (hlt : total + 255 * 255 * indices.length < 2 ^ 32) :
    Reads h w info od (readMappings smAssign indices total) slave
      (od.mappingsBits smAssign indices total) := by
  induction indices generalizing slave total with
  | nil => exact reads_value total slave
  | cons k indices ih =>
      rw [List.length_cons] at hlt
      refine (reads_object hserves hslave _ smAssign (.ofNat k)).bind fun map slave₁ _ h₁ => ?_
      refine (reads_ofExec _ slave₁).bind fun byte0 slave₂ _ h₂ => ?_
      refine (reads_ofExec _ slave₂).bind fun byte1 slave₃ _ h₃ => ?_
      have hinfo : slave₃.info = info := h₃.trans (h₂.trans (h₁.trans hslave))
      refine reads_firstByte hserves hinfo _ _ 0 fun numEntry slave₄ h₄ => ?_
      have hcount : (List.range' 1 numEntry.toNat).length ≤ 255 := by
        rw [List.length_range']
        exact Nat.le_of_lt_succ numEntry.toNat_lt
      refine (reads_readEntries hserves _ h₄ (by omega)).bind fun total' slave₅ htotal h₅ => ?_
      have hle := Dictionary.entriesBits_le htotal
      exact ih (h₅.trans h₄) (by omega)

/-- Whether the sync manager has no process data. -/
lemma reads_readSmType (hserves : Serves h w info od) (direction : Direction) (smNumber : UInt8)
    {slave : Slave} (hslave : slave.info = info) :
    Reads h w info od (readSmType direction smNumber) slave (od.mapsNothing direction smNumber) := by
  refine reads_firstByte hserves hslave _ _ _ fun smType slave' _ => ?_
  by_cases hnone : smType = 0
  · rw [if_pos hnone, if_pos hnone]
    exact reads_value true slave'
  · by_cases hsome : smType = direction.smType
    · rw [if_neg hnone, if_neg hnone, if_pos hsome, if_pos hsome]
      exact reads_value false slave'
    · rw [if_neg hnone, if_neg hnone, if_neg hsome, if_neg hsome]
      exact panics_ofExec rfl slave' w

/-- **The number of bits** of a sync manager. -/
lemma reads_readBitLength (hserves : Serves h w info od) (direction : Direction)
    (smNumber : UInt8) {slave : Slave} (hslave : slave.info = info) :
    Reads h w info od (readBitLength direction smNumber) slave (od.smBits direction smNumber) := by
  refine (reads_readSmType hserves direction smNumber hslave).bind fun isNone slave' _ hslave' => ?_
  cases isNone with
  | true => exact reads_value 0 slave'
  | false =>
      refine reads_firstByte hserves (hslave'.trans hslave) _ _ 0 fun numMaps slave'' hslave'' => ?_
      have hcount : (List.range' 1 numMaps.toNat).length ≤ 255 := by
        rw [List.length_range']
        exact Nat.le_of_lt_succ numMaps.toNat_lt
      exact reads_readMappings hserves _ hslave'' (by omega)

/-! ## The registers of a sync manager -/

/-- The fields that `set_pdo_to_sm` writes for one direction. -/
def smControlFields (direction : Direction) (startRamAddress size : UInt16) : List (Field × ℕ) :=
  [(SyncManagerControl.physicalStartAddress, startRamAddress.toNat),
    (SyncManagerControl.length, size.toNat), (SyncManagerControl.bufferType, 0b00),
    (SyncManagerControl.direction, if direction = .output then 1 else 0),
    (SyncManagerControl.dlsUserEventEnable, 1)]

/-- The control register of a sync manager with process data. -/
def smControl (direction : Direction) (startRamAddress size : UInt16) : List UInt8 :=
  Field.putAll (List.replicate SyncManagerControl.size 0)
    (smControlFields direction startRamAddress size)

/-- The activation register of a sync manager with process data. -/
def smActivation (size : UInt16) : List UInt8 :=
  Field.putAll (List.replicate SyncManagerActivation.size 0)
    [(SyncManagerActivation.channelEnable, if size ≠ 0 then 1 else 0),
      (SyncManagerActivation.repeatBit, 0)]

/-- The fields that it writes. -/
def SyncManagerControl.written : List Field :=
  [SyncManagerControl.physicalStartAddress, SyncManagerControl.length,
    SyncManagerControl.bufferType, SyncManagerControl.direction,
    SyncManagerControl.dlsUserEventEnable]

lemma smControl_fits (direction : Direction) (startRamAddress size : UInt16) :
    ∀ f ∈ (smControlFields direction startRamAddress size).map Prod.fst,
      f.Fits (List.replicate SyncManagerControl.size 0) := by
  have hmap : (smControlFields direction startRamAddress size).map Prod.fst =
    SyncManagerControl.written := rfl
  rw [hmap]
  decide

lemma SyncManagerControl.written_disjoint : SyncManagerControl.written.Pairwise Field.Disjoint := by
  decide +kernel

/-- The control register holds the start address and the length. -/
lemma val_smControl (direction : Direction) (startRamAddress size : UInt16) :
    SyncManagerControl.physicalStartAddress.val (smControl direction startRamAddress size) =
        startRamAddress.toNat ∧
      SyncManagerControl.length.val (smControl direction startRamAddress size) = size.toNat := by
  have hfits := smControl_fits direction startRamAddress size
  have hfield {f : Field} {v : ℕ} (hmem : (f, v) ∈ smControlFields direction startRamAddress size)
      (hv : v < 2 ^ f.width) : f.val (smControl direction startRamAddress size) = v := by
    rw [smControl, Field.val_putAll_of_mem hfits SyncManagerControl.written_disjoint hmem,
      Nat.mod_eq_of_lt hv]
  exact ⟨hfield (by simp [smControlFields]) startRamAddress.toNat_lt,
    hfield (by simp [smControlFields]) size.toNat_lt⟩

/-- The two writes for a sync manager. -/
def smWrites (slave : Slave) (direction : Direction) (smNumber : UInt8)
    (startRamAddress size : UInt16) : List Access :=
  [.writeRegister (.single slave.info.slaveAddress)
      (SyncManagerControl.address + 0x08 * smNumber.toUInt16)
      (smControl direction startRamAddress size),
    .writeRegister (.single slave.info.slaveAddress)
      (SyncManagerActivation.address + 0x08 * smNumber.toUInt16) (smActivation size)]

lemma returns_writeProcessDataSm (hserves : Serves h w info od) (direction : Direction)
    (smNumber : UInt8) (startRamAddress size : UInt16) (slave : Slave) :
    Returns h (writeProcessDataSm direction smNumber startRamAddress size) slave w
      (smWrites slave direction smNumber startRamAddress size) () slave w := by
  have hactivation : ∀ f ∈ List.map Prod.fst
      [(SyncManagerActivation.channelEnable, if size ≠ 0 then 1 else 0),
        (SyncManagerActivation.repeatBit, 0)],
      f.Fits (List.replicate SyncManagerActivation.size 0) := by
    have hfields : ∀ f ∈ [SyncManagerActivation.channelEnable, SyncManagerActivation.repeatBit],
        f.Fits (List.replicate SyncManagerActivation.size 0) := by decide
    exact hfields
  refine (returns_ofExec (Field.setAll_eq_ok_iff.mpr
    ⟨smControl_fits direction startRamAddress size, rfl⟩) slave w).bind_nil ?_
  refine (returns_writeRegisterUnwrap (hserves.writeRegister _ _ _)).bind ?_
  refine (returns_ofExec (Field.setAll_eq_ok_iff.mpr ⟨hactivation, rfl⟩) slave w).bind_nil ?_
  exact returns_writeRegisterUnwrap (hserves.writeRegister _ _ _)

/-! ## One direction -/

/-- The sync manager with the process data of a direction. -/
def Direction.smNumber (info : SlaveInfo) : Direction → Option UInt8
  | .output => info.processDataRxSmNumber
  | .input => info.processDataTxSmNumber

/-- There are four sync managers. -/
lemma SlaveInfo.toNat_smNumber_lt {info : SlaveInfo} {direction : Direction} {smNumber : UInt8}
    (hsm : direction.smNumber info = some smNumber) : smNumber.toNat < 4 := by
  have hlt {p : Option SyncManagerType → Bool}
      (h : (info.sm.toList.findIdx? p).map UInt8.ofNat = some smNumber) : smNumber.toNat < 4 := by
    obtain ⟨i, hi, rfl⟩ := Option.map_eq_some_iff.mp h
    obtain ⟨hlength, -⟩ := List.findIdx?_eq_some_iff_getElem.mp hi
    rw [Vector.length_toList] at hlength
    rw [UInt8.toNat_ofNat']
    omega
  cases direction
  · exact hlt hsm
  · exact hlt hsm

/-- The dictionary describes at least four sync managers. -/
def Dictionary.HasChannels (od : Dictionary) : Prop := ∃ n, 4 ≤ n ∧ od.HasByte 0x1C00 0 n

/-- What is done with the sync manager of a direction, if there is one. -/
def setSmOf (direction : Direction) (startRamAddress : UInt16) :
    Option UInt8 → Configure Slave UInt16
  | none => pure startRamAddress
  | some smNumber => do
    let pdoMapBitLength ← readBitLength direction smNumber
    let size := UInt16.ofNat (bytesOfBits pdoMapBitLength)
    writeProcessDataSm direction smNumber startRamAddress size
    let bitLength ← .ofExec (mulUpTo 16 size.toNat 8)
    .modify fun slave =>
      slave.setFmmu direction.fmmuSlot (.new startRamAddress (.ofNat bitLength) direction)
    let ramSize ← .ofExec (mulUpTo 16 size.toNat 3)
    let nextRamAddress ← .ofExec (addUpTo 16 startRamAddress.toNat ramSize)
    pure (.ofNat nextRamAddress)

/-- The number of channels is checked. -/
def readChannels : Configure Slave Unit := do
  let numSmComm ← readSdo .getNumberOfSyncManagerChannel 0x1C00 0
  let numSmComm ← .ofExec (index numSmComm 0)
  .ofExec (assert (4 ≤ numSmComm))

/-- The channels are read first. -/
lemma setPdoToSmUtility_eq (direction : Direction) (startRamAddress : UInt16) :
    setPdoToSmUtility direction startRamAddress = (do
      readChannels
      let slave ← .get
      setSmOf direction startRamAddress (direction.smNumber slave.info)) := by
  simp only [readChannels, Method.bind_assoc]
  cases direction <;> rfl

/-- The slave after the channels were read. -/
lemma onlyCounts_incrementMbCount (slave : Slave) : OnlyCounts slave slave.incrementMbCount.2 :=
  ⟨_, rfl⟩

lemma reads_readChannels (hserves : Serves h w info od) {slave : Slave}
    (hslave : slave.info = info) : Reads h w info od readChannels slave od.channels :=
  reads_firstByte hserves hslave _ _ 0 fun _ slave' _ => reads_ofExec _ slave'

lemma Dictionary.channels_eq_value_iff : od.channels = .value () ↔ od.HasChannels := by
  constructor
  · intro h
    obtain ⟨n, hbyte, hassert⟩ := Reading.bind_eq_value.mp h
    obtain ⟨data, hdata, hindex⟩ := Reading.bind_eq_value.mp hbyte
    refine ⟨n, ?_, ?_⟩
    · by_contra hlt
      rw [assert, check, if_neg hlt] at hassert
      cases hassert
    · rcases data with _ | ⟨byte, rest⟩
      · cases hindex
      · cases hindex
        refine ⟨rest, ?_⟩
        rcases hod : od 0x1C00 0 with _ | data
        · rw [Dictionary.object, hod] at hdata
          cases hdata
        · rw [Dictionary.object, hod] at hdata
          cases hdata
          rfl
  · rintro ⟨n, hle, hbyte⟩
    have hassert : assert (4 ≤ n) = .ok () := assert_eq_ok_iff.mpr hle
    rw [Dictionary.channels, hbyte.firstByte_eq, Reading.value_bind, hassert]
    rfl

lemma Dictionary.SmBits.described_eq {direction : Direction} {smNumber : UInt8} {total : ℕ}
    (htotal : od.SmBits direction smNumber total) (hchannels : od.HasChannels) :
    od.described direction smNumber = .value total := by
  rw [Dictionary.described, channels_eq_value_iff.mpr hchannels, Reading.value_bind,
    htotal.smBits_eq]

/-- Four channels are enough. -/
lemma returns_readChannels (hserves : Serves h w info od) (hchannels : od.HasChannels)
    {slave : Slave} (hslave : slave.info = info) :
    Returns h readChannels slave w [.readSdo slave 0x1C00 0] () slave.incrementMbCount.2 w := by
  obtain ⟨n, hn, rest, hdata⟩ := hchannels
  have hread := returns_readSdo .getNumberOfSyncManagerChannel
    (hserves.readSdo slave 0x1C00 0 _ hslave hdata)
  have hassert : assert (4 ≤ n) = .ok () := assert_eq_ok_iff.mpr hn
  exact hread.bind ((returns_ofExec (a := n) rfl _ w).bind_nil (returns_ofExec hassert _ w))

/-- The number of bytes, narrowed to 16 bits. -/
def narrowed (bits : ℕ) : UInt16 := .ofNat (bytesOfBits bits)

/-- The bytes of the direction are tripled and fit. -/
def SizeFits (startRamAddress : UInt16) (size : UInt16) : Prop :=
  size.toNat * 8 < 2 ^ 16 ∧ startRamAddress.toNat + size.toNat * 3 < 2 ^ 16

/-- The next direction begins behind the three buffers. -/
lemma SizeFits.toNat_next {startRamAddress size : UInt16} (h : SizeFits startRamAddress size) :
    (startRamAddress + size * 3).toNat = startRamAddress.toNat + size.toNat * 3 := by
  obtain ⟨-, hlt⟩ := h
  rw [UInt16.toNat_add, UInt16.toNat_mul]
  simp only [UInt16.reduceToNat]
  omega

/-- A sync manager whose process data can be read: its registers are written, and it returns if the
bytes fit. -/
lemma returns_setSmOf (hserves : Serves h w info od) {direction : Direction} {smNumber : UInt8}
    {total : ℕ} (htotal : od.smBits direction smNumber = .value total) {slave : Slave}
    (hslave : slave.info = info) (startRamAddress : UInt16) :
    ∃ reads slave', OnlyCounts slave slave' ∧ (∀ read ∈ reads, read.IsSdoRead) ∧
      (SizeFits startRamAddress (.ofNat (bytesOfBits total)) →
        Returns h (setSmOf direction startRamAddress (some smNumber)) slave w
          (reads ++ smWrites slave' direction smNumber startRamAddress (.ofNat (bytesOfBits total)))
          (startRamAddress + .ofNat (bytesOfBits total) * 3)
          (slave'.setFmmu direction.fmmuSlot
            (.new startRamAddress (.ofNat (bytesOfBits total) * 8) direction)) w) ∧
      (¬ SizeFits startRamAddress (.ofNat (bytesOfBits total)) →
        Panics h (setSmOf direction startRamAddress (some smNumber)) slave w) := by
  have hread := reads_readBitLength hserves direction smNumber hslave
  rw [htotal] at hread
  obtain ⟨reads, slave', hreturns, hcounts, hreads⟩ := hread
  generalize hsize : UInt16.ofNat (bytesOfBits total) = size
  have hwrites := returns_writeProcessDataSm hserves direction smNumber startRamAddress size slave'
  rw [setSmOf]
  refine ⟨reads, slave', hcounts, hreads, fun hfits => ?_, fun hfits => ?_⟩
  · obtain ⟨hbits, hnext⟩ := hfits
    have hfmmu : UInt16.ofNat (size.toNat * 8) = size * 8 := by
      rw [UInt16.ofNat_mul, UInt16.ofNat_toNat]
      rfl
    have haddress : UInt16.ofNat (startRamAddress.toNat + size.toNat * 3) =
        startRamAddress + size * 3 := by
      rw [UInt16.ofNat_add, UInt16.ofNat_mul, UInt16.ofNat_toNat, UInt16.ofNat_toNat]
      rfl
    refine hreturns.bind ?_
    rw [hsize, ← hfmmu, ← haddress, ← List.append_nil (smWrites ..)]
    refine hwrites.bind ?_
    refine (returns_ofExec (mulUpTo_eq_ok_iff.mpr ⟨hbits, rfl⟩) slave' w).bind_nil ?_
    refine (returns_modify _ slave' w).bind_nil ?_
    refine (returns_ofExec (mulUpTo_eq_ok_iff.mpr ⟨by omega, rfl⟩) _ w).bind_nil ?_
    refine (returns_ofExec (addUpTo_eq_ok_iff.mpr ⟨hnext, rfl⟩) _ w).bind_nil ?_
    exact returns_pure _ _ w
  · refine hreturns.bind_panics ?_
    rw [hsize]
    refine hwrites.bind_panics ?_
    by_cases hbits : size.toNat * 8 < 2 ^ 16
    · refine (returns_ofExec (mulUpTo_eq_ok_iff.mpr ⟨hbits, rfl⟩) slave' w).bind_panics ?_
      refine (returns_modify _ slave' w).bind_panics ?_
      refine (returns_ofExec (mulUpTo_eq_ok_iff.mpr ⟨by omega, rfl⟩) _ w).bind_panics ?_
      have hover : ¬ startRamAddress.toNat + size.toNat * 3 < 2 ^ 16 := fun h => hfits ⟨hbits, h⟩
      exact (panics_ofExec (if_neg hover) _ w).bind _
    · exact (panics_ofExec (if_neg hbits) slave' w).bind _

/-- A direction without a sync manager. -/
lemma returns_setPdoToSmUtility_none (hserves : Serves h w info od) (hchannels : od.HasChannels)
    {direction : Direction} (hnone : direction.smNumber info = none) {slave : Slave}
    (hslave : slave.info = info) (startRamAddress : UInt16) :
    Returns h (setPdoToSmUtility direction startRamAddress) slave w [.readSdo slave 0x1C00 0]
      startRamAddress slave.incrementMbCount.2 w := by
  rw [setPdoToSmUtility_eq]
  refine (returns_readChannels hserves hchannels hslave).bind ((returns_get _ w).bind_nil ?_)
  have hinfo : slave.incrementMbCount.2.info = info := hslave
  rw [hinfo, hnone]
  exact returns_pure startRamAddress _ w

/-- A direction whose process data can be read. -/
lemma returns_setPdoToSmUtility (hserves : Serves h w info od) {direction : Direction}
    {smNumber : UInt8} (hsm : direction.smNumber info = some smNumber) {total : ℕ}
    (htotal : od.described direction smNumber = .value total) {slave : Slave}
    (hslave : slave.info = info) (startRamAddress : UInt16) :
    ∃ reads slave', OnlyCounts slave slave' ∧ (∀ read ∈ reads, read.IsSdoRead) ∧
      (SizeFits startRamAddress (.ofNat (bytesOfBits total)) →
        Returns h (setPdoToSmUtility direction startRamAddress) slave w
          (.readSdo slave 0x1C00 0 ::
            (reads ++ smWrites slave' direction smNumber startRamAddress
              (.ofNat (bytesOfBits total))))
          (startRamAddress + .ofNat (bytesOfBits total) * 3)
          (slave'.setFmmu direction.fmmuSlot
            (.new startRamAddress (.ofNat (bytesOfBits total) * 8) direction)) w) ∧
      (¬ SizeFits startRamAddress (.ofNat (bytesOfBits total)) →
        Panics h (setPdoToSmUtility direction startRamAddress) slave w) := by
  obtain ⟨⟨⟩, hchannels, htotal⟩ := Reading.bind_eq_value.mp htotal
  have hinfo : slave.incrementMbCount.2.info = info := hslave
  obtain ⟨reads, slave', hcounts, hreads, hreturns, hpanics⟩ :=
    returns_setSmOf hserves htotal hinfo startRamAddress
  have hchannel := returns_readChannels hserves (Dictionary.channels_eq_value_iff.mp hchannels) hslave
  rw [setPdoToSmUtility_eq]
  refine ⟨reads, slave', (onlyCounts_incrementMbCount slave).trans hcounts, hreads,
    fun hfits => ?_, fun hfits => ?_⟩
  · refine hchannel.bind ((returns_get _ w).bind_nil ?_)
    rw [hinfo, hsm]
    exact hreturns hfits
  · refine hchannel.bind_panics ((returns_get _ w).bind_panics ?_)
    rw [hinfo, hsm]
    exact hpanics hfits

end

end EtherCat
