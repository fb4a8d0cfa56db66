import EtherCat.Master.ConfigureSlaves
import EtherCat.Master.Dictionary
import EtherCat.Master.ReadWriteAs

/-!
# What the configuration makes of the objects it reads

`configure_slaves_for_operation` takes the data of every object that it reads as a number, and goes
on with that number (`consumes_configureSlavesForOperation`).  Which bytes of the data it takes
depends on the object alone, for the cycle time the fifth byte and not the fourth.
-/

namespace EtherCat

open Rust Rust.Exec BitField Configure

/-- What the configuration reads. -/
inductive SdoReader
  | numberOfSyncManagerChannel
  | syncManagerCommunicationType
  | numberOfPdoMappings
  | pdoMappingAddress
  | numberOfPdoEntries
  | pdoEntrtyAddress
  | syncManagerCycleTime
  | syncManagerSyncType
  | minimumCycleTime
  deriving DecidableEq, Repr

namespace SdoReader

/-- The error if the object cannot be read. -/
def kind : SdoReader → SdoError → ConfigErrorKind
  | numberOfSyncManagerChannel => .getNumberOfSyncManagerChannel
  | syncManagerCommunicationType => .getSyncManagerCommunicationType
  | numberOfPdoMappings => .getNumberOfPdoMappings
  | pdoMappingAddress => .getPdoMappingAddress
  | numberOfPdoEntries => .getNumberOfPdoEntries
  | pdoEntrtyAddress => .getPdoEntrtyAddress
  | syncManagerCycleTime => .getSyncManagerCycleTime
  | syncManagerSyncType => .getSyncManagerSyncType
  | minimumCycleTime => .getMinimumCycleTime

/-- The number of bytes that the object has.  Of a mapped entry only the bit length is read. -/
def width : SdoReader → ℕ
  | pdoMappingAddress => 2
  | syncManagerCycleTime | minimumCycleTime => 4
  | _ => 1

/-- The bytes that are read. -/
def indices : SdoReader → List ℕ
  | syncManagerCycleTime => [0, 1, 2, 4]
  | reader => List.range reader.width

/-- The number that is read. -/
def read (reader : SdoReader) (result : SdoResult) : Exec (Except (TaskError SdoErrorKind) ℕ) :=
  readLe reader.indices id result

/-- The data hold the number where it is read. -/
def Suffices (reader : SdoReader) (data : List UInt8) : Prop :=
  reader.width ≤ data.length ∧ (reader = .syncManagerCycleTime → data[4]? = data[3]?)

end SdoReader

/-- The read that a failed call would report. -/
def ConfigErrorKind.sdoReader : ConfigErrorKind → Option SdoReader
  | .getNumberOfSyncManagerChannel _ => some .numberOfSyncManagerChannel
  | .getSyncManagerCommunicationType _ => some .syncManagerCommunicationType
  | .getNumberOfPdoMappings _ => some .numberOfPdoMappings
  | .getPdoMappingAddress _ => some .pdoMappingAddress
  | .getNumberOfPdoEntries _ => some .numberOfPdoEntries
  | .getPdoEntrtyAddress _ => some .pdoEntrtyAddress
  | .getSyncManagerCycleTime _ => some .syncManagerCycleTime
  | .getSyncManagerSyncType _ => some .syncManagerSyncType
  | .getMinimumCycleTime _ => some .minimumCycleTime
  | _ => none

lemma SdoReader.sdoReader_kind (reader : SdoReader) (error : SdoError) :
    (reader.kind error).sdoReader = some reader := by
  cases reader <;> rfl

/-! ## When the number is read -/

lemma SdoReader.readsLittleEndian_read_iff (reader : SdoReader) (result : SdoResult) :
    ReadsLittleEndian reader.width id result (reader.read result) ↔
      ∀ data, result = .ok (.ok data) → reader.Suffices data := by
  by_cases hcycle : reader = .syncManagerCycleTime
  · subst hcycle
    refine readsLittleEndian_iff_of_data fun data => ?_
    change (if data.length < 4 then _ else _) ↔ 4 ≤ data.length ∧ (_ → data[4]? = data[3]?)
    rcases data with _ | ⟨byte0, _ | ⟨byte1, _ | ⟨byte2, _ | ⟨byte3, _ | ⟨byte4, rest⟩⟩⟩⟩⟩
    case cons.cons.cons.cons.nil =>
      refine ⟨fun hread => ?_, fun h => absurd (h.2 rfl) (by rintro ⟨⟩)⟩
      rw [if_neg (by simp), readLe_data, mapM_index_of_le (i := 4) (by decide) (by simp)] at hread
      cases hread
    case cons.cons.cons.cons.cons =>
      rw [if_neg (by simp)]
      have hread : SdoReader.syncManagerCycleTime.indices.mapM
          (index (byte0 :: byte1 :: byte2 :: byte3 :: byte4 :: rest)) =
            .ok [byte0, byte1, byte2, byte4] := rfl
      rw [readLe_data, hread]
      constructor
      · intro hvalue
        have hbytes : [byte0, byte1, byte2, byte4] = [byte0, byte1, byte2, byte3] :=
          fromLeBytes_injective rfl (Except.ok.inj (Except.ok.inj hvalue))
        cases hbytes
        exact ⟨by simp, fun _ => rfl⟩
      · rintro ⟨-, hsame⟩
        cases hsame rfl
        rfl
    all_goals
      refine ⟨fun hread => ?_, fun h => absurd h.1 (by simp)⟩
      rw [if_pos (by simp)] at hread
      obtain ⟨e, he⟩ := hread
      exact absurd he (readLe_ne_error e)
  · have hindices : reader.indices = List.range reader.width := by
      cases reader <;> first | rfl | exact absurd rfl hcycle
    rw [SdoReader.read, hindices, readsLittleEndian_readLe_iff]
    exact forall_congr' fun data => forall_congr' fun _ =>
      ⟨fun hle => ⟨hle, fun heq => absurd heq hcycle⟩, fun h => h.1⟩

/-! ## Programs that read numbers -/

section

variable {σ S α β : Type}

/-- What a program does with the number that is read. -/
def afterRead (onError : TaskError SdoErrorKind → Program Access Access.Answer α)
    (rest : ℕ → Program Access Access.Answer α) :
    Exec (Except (TaskError SdoErrorKind) ℕ) → Program Access Access.Answer α
  | .ok (.ok n) => rest n
  | .ok (.error e) => onError e
  | .error e => .fail e

/-- The program reads a number, and nothing else of the data.  If the call fails it returns the
error, which says what was to be read. -/
def IsNumberRead : (access : Access) →
    (access.Answer → Program Access Access.Answer (Except ConfigError α × S)) → Prop
  | .readSdo slave index subIndex, k =>
    ∃ (reader : SdoReader) (s : S) (rest : ℕ → _), ∀ result : SdoResult,
      k result = afterRead
        (fun e => .ret (.error ⟨slave.info.slaveAddress, reader.kind ⟨index, subIndex, e⟩⟩, s))
        rest (reader.read result)
  | _, _ => True

/-- All objects that the program reads are numbers. -/
def NumberReads : Program Access Access.Answer (Except ConfigError α × S) → Prop
  | .ask access k => IsNumberRead access k ∧ ∀ answer, NumberReads (k answer)
  | _ => True

/-- What was to be read is what the error of a failed call names. -/
def readerOf : Program Access Access.Answer (Except ConfigError α × S) → Option SdoReader
  | .ret (.error e, _) => e.kind.sdoReader
  | _ => none

/-- The read that a question is, with its result. -/
def sdoReadAt : (access : Access) →
    (access.Answer → Program Access Access.Answer (Except ConfigError α × S)) → access.Answer →
      List (SdoReader × SdoResult)
  | .readSdo .., k, (result : SdoResult) =>
    ((readerOf (k (.ok (.error .timeout) : SdoResult))).map fun reader => (reader, result)).toList
  | _, _, _ => []

/-- The reads of a run, in order. -/
def sdoReads (h : σ → (access : Access) → access.Answer × σ) :
    Program Access Access.Answer (Except ConfigError α × S) → σ → List (SdoReader × SdoResult)
  | .ask access k, w =>
    sdoReadAt access k (h w access).1 ++ sdoReads h (k (h w access).1) (h w access).2
  | _, _ => []

lemma afterRead_bind (onError : TaskError SdoErrorKind → Program Access Access.Answer α)
    (rest : ℕ → Program Access Access.Answer α) (f : α → Program Access Access.Answer β)
    (read : Exec (Except (TaskError SdoErrorKind) ℕ)) :
    (afterRead onError rest read >>= f) =
      afterRead (fun e => onError e >>= f) (fun n => rest n >>= f) read := by
  rcases read with e | (e | n) <;> rfl

/-- A rest that keeps errors. -/
def KeepsErrors {T : Type}
    (f : Except ConfigError α × S → Program Access Access.Answer (Except ConfigError β × T)) :
    Prop :=
  ∀ s, ∃ t, ∀ e, f (.error e, s) = .ret (.error e, t)

lemma IsNumberRead.bind {T : Type} {access : Access}
    {k : access.Answer → Program Access Access.Answer (Except ConfigError α × S)}
    {f : Except ConfigError α × S → Program Access Access.Answer (Except ConfigError β × T)}
    (hk : IsNumberRead access k) (hf : KeepsErrors f) :
    IsNumberRead access fun answer => k answer >>= f := by
  cases access with
  | readSdo slave index subIndex =>
      obtain ⟨reader, s, rest, hread⟩ := hk
      obtain ⟨t, ht⟩ := hf s
      refine ⟨reader, t, fun n => rest n >>= f, fun result => ?_⟩
      change (k result >>= f) = _
      rw [hread, afterRead_bind]
      simp only [Program.ret_bind, ht]
  | writeSdo => trivial
  | readRegister => trivial
  | writeRegister => trivial

lemma NumberReads.bind {T : Type}
    {p : Program Access Access.Answer (Except ConfigError α × S)}
    {f : Except ConfigError α × S → Program Access Access.Answer (Except ConfigError β × T)}
    (hp : NumberReads p) (hf : KeepsErrors f) (hrest : ∀ r, NumberReads (f r)) :
    NumberReads (p >>= f) := by
  induction p with
  | ret r => exact hrest r
  | fail e => trivial
  | cut => trivial
  | ask access k ih => exact ⟨hp.1.bind hf, fun answer => ih answer (hp.2 answer)⟩

end

/-! ## Methods that read numbers -/

namespace Configure

variable {S α β : Type}

/-- All objects that the method reads are numbers. -/
def ReadsNumbers (m : Configure S α) : Prop := ∀ s, NumberReads (m s)

lemma readsNumbers_pure (a : α) : ReadsNumbers (pure a : Configure S α) := fun _ => trivial

lemma readsNumbers_throw (e : ConfigError) : ReadsNumbers (.throw e : Configure S α) :=
  fun _ => trivial

lemma readsNumbers_get : ReadsNumbers (.get : Configure S S) := fun _ => trivial

lemma readsNumbers_modify (f : S → S) : ReadsNumbers (.modify f : Configure S Unit) :=
  fun _ => trivial

lemma readsNumbers_cut : ReadsNumbers (.cut : Configure S α) := fun _ => trivial

lemma readsNumbers_ofExec (x : Exec α) : ReadsNumbers (.ofExec x : Configure S α) := by
  intro s
  rcases x with e | a <;> trivial

lemma ReadsNumbers.bind {m : Configure S α} {f : α → Configure S β} (hm : ReadsNumbers m)
    (hf : ∀ a, ReadsNumbers (f a)) : ReadsNumbers (m >>= f) := by
  intro s
  refine (hm s).bind (fun s => ⟨s, fun _ => rfl⟩) ?_
  rintro ⟨e | a, s'⟩
  · trivial
  · exact hf a s'

lemma ReadsNumbers.zoom {T : Type} {m : Configure T α} (hm : ReadsNumbers m) (part : S → T)
    (put : T → S → S) : ReadsNumbers (.zoom part put m : Configure S α) :=
  fun s => (hm (part s)).bind (fun t => ⟨put t s, fun _ => rfl⟩) fun _ => trivial

lemma readsNumbers_orReturn {E : Type} (slave : Slave) (kind : E → ConfigErrorKind)
    (answer : Exec (Except E α)) : ReadsNumbers (orReturn slave kind answer : Configure S α) := by
  intro s
  rcases answer with e | (e | a) <;> trivial

/-- A question that is no read. -/
lemma readsNumbers_ask {access : Access}
    (h : ∀ slave index subIndex, access ≠ .readSdo slave index subIndex) :
    ReadsNumbers (.ask access : Configure S access.Answer) := by
  intro s
  refine ⟨?_, fun _ => trivial⟩
  cases access with
  | readSdo slave index subIndex => exact absurd rfl (h slave index subIndex)
  | writeSdo => trivial
  | readRegister => trivial
  | writeRegister => trivial

lemma readsNumbers_writeSdo (kind : SdoError → ConfigErrorKind) (index : UInt16) (subIndex : UInt8)
    (data : List UInt8) : ReadsNumbers (writeSdo kind index subIndex data) := by
  refine readsNumbers_get.bind fun slave => ?_
  refine (readsNumbers_ask (by rintro _ _ _ ⟨⟩)).bind fun answer => ?_
  refine (readsNumbers_modify _).bind fun _ => ?_
  exact readsNumbers_orReturn slave _ answer

lemma readsNumbers_readRegister (kind : RegisterError → ConfigErrorKind)
    (errorAddress registerAddress : UInt16) (dataSize : ℕ) :
    ReadsNumbers (readRegister kind errorAddress registerAddress dataSize) := by
  refine readsNumbers_get.bind fun slave => ?_
  refine (readsNumbers_ask (by rintro _ _ _ ⟨⟩)).bind fun answer => ?_
  exact readsNumbers_orReturn slave _ answer

lemma readsNumbers_writeRegister (kind : RegisterError → ConfigErrorKind)
    (registerAddress : UInt16) (data : List UInt8) :
    ReadsNumbers (writeRegister kind registerAddress data) := by
  refine readsNumbers_get.bind fun slave => ?_
  refine (readsNumbers_ask (by rintro _ _ _ ⟨⟩)).bind fun answer => ?_
  exact readsNumbers_orReturn slave _ answer

lemma readsNumbers_writeRegisterUnwrap (registerAddress : UInt16) (data : List UInt8) :
    ReadsNumbers (writeRegisterUnwrap registerAddress data) := by
  refine readsNumbers_get.bind fun slave => ?_
  refine (readsNumbers_ask (by rintro _ _ _ ⟨⟩)).bind fun answer => ?_
  rcases answer with e | (e | ⟨⟩)
  · exact readsNumbers_ofExec _
  · exact readsNumbers_ofExec _
  · exact readsNumbers_pure ()

/-- **A read.**  What is done with the data is done with the number. -/
lemma readsNumbers_readSdo (reader : SdoReader) {index : UInt16} {subIndex : UInt8}
    {f : List UInt8 → Configure Slave α} {rest : ℕ → Configure Slave α}
    (hf : ∀ data, f data = .ofExec (reader.indices.mapM (Rust.index data)) >>= fun bytes =>
      rest (fromLeBytes bytes))
    (hrest : ∀ n, ReadsNumbers (rest n)) :
    ReadsNumbers (readSdo reader.kind index subIndex >>= f) := by
  intro slave
  refine ⟨⟨reader, slave.incrementMbCount.2, fun n => rest n slave.incrementMbCount.2,
    fun result => ?_⟩, fun (result : SdoResult) => ?_⟩
  · rcases result with e | (e | data)
    · rfl
    · rfl
    · change f data slave.incrementMbCount.2 = _
      rw [hf, SdoReader.read, readLe_data, Method.bind_apply]
      rcases reader.indices.mapM (Rust.index data) with e | bytes <;> rfl
  · rcases result with e | (e | data)
    · trivial
    · trivial
    · change NumberReads (f data slave.incrementMbCount.2)
      rw [hf]
      exact (readsNumbers_ofExec _).bind (fun bytes => hrest _) _

/-- A read of a byte. -/
lemma readsNumbers_byte (reader : SdoReader) (hreader : reader.indices = [0]) {index : UInt16}
    {subIndex : UInt8} {f : UInt8 → Configure Slave α} (hf : ∀ byte, ReadsNumbers (f byte)) :
    ReadsNumbers (readSdo reader.kind index subIndex >>= fun data =>
      .ofExec (Rust.index data 0) >>= f) := by
  refine readsNumbers_readSdo reader (fun data => ?_) fun n => hf (.ofNat n)
  rw [hreader]
  rcases data with _ | ⟨byte, data⟩
  · rfl
  · have hone : fromLeBytes [byte] = byte.toNat := by
      have hbytes : toLeBytes 1 byte.toNat = [byte] := by simp [toLeBytes]
      rw [← hbytes, fromLeBytes_toLeBytes, Nat.mod_eq_of_lt byte.toNat_lt]
    have hbyte : UInt8.ofNat (fromLeBytes [byte]) = byte := by rw [hone, UInt8.ofNat_toNat]
    exact congrArg (fun byte => f byte) hbyte.symm

/-! ## The process data -/

/-- The bit length of an entry is its first byte. -/
lemma get_bitLength (data : List UInt8) :
    OdPdoEntry.bitLength.get data =
      ([0] : List ℕ).mapM (Rust.index data) >>= fun bytes => .ok (fromLeBytes bytes) := by
  rcases data with _ | ⟨byte, data⟩
  · rfl
  · have hfits : OdPdoEntry.bitLength.Fits [byte] := Nat.zero_lt_one
    have hfirst : OdPdoEntry.bitLength.val (byte :: data) = OdPdoEntry.bitLength.val [byte] :=
      Field.val_append_left hfits data
    have hbits : OdPdoEntry.bitLength.val [byte] = fromLeBytes [byte] :=
      congrArg (fun f : Fin 8 → Bool => Nat.ofBits f)
        (funext fun k => congrArg (bitAt [byte]) (Nat.zero_add k.val))
    rw [Field.get_of_fits (by exact Nat.succ_pos _), hfirst, hbits]
    rfl

lemma readsNumbers_readEntries (mapAddress : UInt16) (indices : List ℕ) (bits : ℕ) :
    ReadsNumbers (readEntries mapAddress indices bits) := by
  induction indices generalizing bits with
  | nil => exact readsNumbers_pure bits
  | cons entryIndex indices ih =>
      have hrest : ∀ n, ReadsNumbers (do
          let pdoMapBitLength ← .ofExec (addUpTo 32 bits n)
          readEntries mapAddress indices pdoMapBitLength) :=
        fun n => (readsNumbers_ofExec _).bind fun bits => ih bits
      refine readsNumbers_readSdo .pdoEntrtyAddress (fun data => ?_) hrest
      rw [get_bitLength]
      rcases data with _ | ⟨byte, data⟩ <;> rfl

lemma readsNumbers_readMappings (smAssign : UInt16) (indices : List ℕ) (bits : ℕ) :
    ReadsNumbers (readMappings smAssign indices bits) := by
  induction indices generalizing bits with
  | nil => exact readsNumbers_pure bits
  | cons mapIndex indices ih =>
      have hrest : ∀ n, ReadsNumbers (do
          let numEntry ← readSdo .getNumberOfPdoEntries (UInt16.ofNat n) 0
          let numEntry ← .ofExec (Rust.index numEntry 0)
          let pdoMapBitLength ←
            readEntries (UInt16.ofNat n) (List.range' 1 numEntry.toNat) bits
          readMappings smAssign indices pdoMapBitLength) := fun n =>
        readsNumbers_byte .numberOfPdoEntries rfl fun numEntry =>
          (readsNumbers_readEntries _ _ _).bind fun bits => ih bits
      refine readsNumbers_readSdo .pdoMappingAddress (fun data => ?_) hrest
      rcases data with _ | ⟨byte0, _ | ⟨byte1, data⟩⟩ <;> rfl

lemma readsNumbers_readSmType (direction : Direction) (smNumber : UInt8) :
    ReadsNumbers (readSmType direction smNumber) := by
  refine readsNumbers_byte .syncManagerCommunicationType rfl fun smType => ?_
  split_ifs
  · exact readsNumbers_pure true
  · exact readsNumbers_pure false
  · exact readsNumbers_ofExec _

lemma readsNumbers_readBitLength (direction : Direction) (smNumber : UInt8) :
    ReadsNumbers (readBitLength direction smNumber) := by
  refine (readsNumbers_readSmType direction smNumber).bind fun isPdoMapNone => ?_
  split_ifs
  · exact readsNumbers_pure 0
  · refine readsNumbers_byte .numberOfPdoMappings rfl fun numMaps => ?_
    exact readsNumbers_readMappings _ _ _

lemma readsNumbers_writeProcessDataSm (direction : Direction) (smNumber : UInt8)
    (startRamAddress size : UInt16) :
    ReadsNumbers (writeProcessDataSm direction smNumber startRamAddress size) := by
  refine (readsNumbers_ofExec _).bind fun smControl => ?_
  refine (readsNumbers_writeRegisterUnwrap _ _).bind fun _ => ?_
  refine (readsNumbers_ofExec _).bind fun smActive => ?_
  exact readsNumbers_writeRegisterUnwrap _ _

lemma readsNumbers_setPdoToSmUtility (direction : Direction) (startRamAddress : UInt16) :
    ReadsNumbers (setPdoToSmUtility direction startRamAddress) := by
  refine readsNumbers_byte .numberOfSyncManagerChannel rfl fun numSmComm => ?_
  refine (readsNumbers_ofExec _).bind fun _ => ?_
  refine readsNumbers_get.bind fun slave => ?_
  dsimp only
  split
  · exact readsNumbers_pure startRamAddress
  · refine (readsNumbers_readBitLength _ _).bind fun bits => ?_
    refine (readsNumbers_writeProcessDataSm _ _ _ _).bind fun _ => ?_
    refine (readsNumbers_ofExec _).bind fun bitLength => ?_
    refine (readsNumbers_modify _).bind fun _ => ?_
    refine (readsNumbers_ofExec _).bind fun ramSize => ?_
    refine (readsNumbers_ofExec _).bind fun nextRamAddress => ?_
    exact readsNumbers_pure _

lemma readsNumbers_setPdoToSmSlave (config : SlaveConfig) :
    ReadsNumbers (setPdoToSmSlave config) := by
  refine readsNumbers_get.bind fun slave => ?_
  split
  · exact readsNumbers_pure ()
  · refine (readsNumbers_setPdoToSmUtility _ _).bind fun nextRamAddress => ?_
    exact (readsNumbers_setPdoToSmUtility _ _).bind fun _ => readsNumbers_pure ()

/-! ## The objects that are written, and the FMMUs -/

lemma readsNumbers_writeEntries (pdoMapIndex : UInt16) (entries : List PdoEntry) (entryIndex : ℕ) :
    ReadsNumbers (writeEntries pdoMapIndex entries entryIndex) := by
  induction entries generalizing entryIndex with
  | nil => exact readsNumbers_pure entryIndex
  | cons entry entries ih =>
      refine (readsNumbers_ofExec _).bind fun odPdoEntry => ?_
      refine (readsNumbers_ofExec _).bind fun entryIndex => ?_
      exact (readsNumbers_writeSdo _ _ _ _).bind fun _ => ih entryIndex

lemma readsNumbers_writeMapping (smAssign : UInt16) (mapIndex : ℕ) (pdoMap : PdoMapping) :
    ReadsNumbers (writeMapping smAssign mapIndex pdoMap) := by
  refine (readsNumbers_writeSdo _ _ _ _).bind fun _ => ?_
  split_ifs
  · exact readsNumbers_pure ()
  · refine (readsNumbers_writeSdo _ _ _ _).bind fun _ => ?_
    refine (readsNumbers_writeEntries _ _ _).bind fun entryIndex => ?_
    exact readsNumbers_writeSdo _ _ _ _

lemma readsNumbers_writeMappings (smAssign : UInt16) (pdoMappings : List PdoMapping)
    (mapIndex : ℕ) : ReadsNumbers (writeMappings smAssign pdoMappings mapIndex) := by
  induction pdoMappings generalizing mapIndex with
  | nil => exact readsNumbers_pure mapIndex
  | cons pdoMap pdoMappings ih =>
      rw [writeMappings]
      split_ifs
      · exact ih mapIndex
      · refine (readsNumbers_ofExec _).bind fun mapIndex => ?_
        exact (readsNumbers_writeMapping _ _ _).bind fun _ => ih mapIndex

lemma readsNumbers_setPdoConfigToOdUtility (config : SlaveConfig) (isOutput : Bool) :
    ReadsNumbers (setPdoConfigToOdUtility config isOutput) := by
  refine readsNumbers_get.bind fun slave => ?_
  generalize (if isOutput then _ else _ : List PdoMapping × Option UInt8) = choice
  obtain ⟨pdoMappings, smNumber⟩ := choice
  rcases smNumber with _ | smNumber
  · exact readsNumbers_pure ()
  · refine (readsNumbers_writeSdo _ _ _ _).bind fun _ => ?_
    refine (readsNumbers_writeMappings _ _ _).bind fun mapIndex => ?_
    exact readsNumbers_writeSdo _ _ _ _

lemma readsNumbers_setPdoConfigToOdSlave (config : SlaveConfig) :
    ReadsNumbers (setPdoConfigToOdSlave config) :=
  (readsNumbers_setPdoConfigToOdUtility config true).bind fun _ =>
    readsNumbers_setPdoConfigToOdUtility config false

lemma readsNumbers_configureSlot (i : Fin 3) : ReadsNumbers (configureSlot i) := by
  refine readsNumbers_get.bind fun slave => ?_
  split
  · exact readsNumbers_pure ()
  · split
    · exact readsNumbers_pure ()
    · refine (readsNumbers_ofExec _).bind fun byteLength => ?_
      split_ifs
      · exact readsNumbers_pure ()
      · refine (readsNumbers_ofExec _).bind fun endBit => ?_
        refine (readsNumbers_ofExec _).bind fun register => ?_
        exact readsNumbers_writeRegister _ _ _

lemma readsNumbers_configureFmmuSlave (config : SlaveConfig) :
    ReadsNumbers (configureFmmuSlave config) := by
  refine (readsNumbers_configureSlot 0).bind fun _ => ?_
  exact (readsNumbers_configureSlot 1).bind fun _ => readsNumbers_configureSlot 2

/-! ## The synchronisation -/

lemma readsNumbers_getCycleTime (config : SlaveConfig) (addr : UInt16) :
    ReadsNumbers (getCycleTime config addr) := by
  unfold getCycleTime
  split
  · exact readsNumbers_pure _
  · refine readsNumbers_readSdo .syncManagerCycleTime (fun data => ?_)
      fun n => readsNumbers_pure (UInt32.ofNat n)
    rcases data with _ | ⟨byte0, _ | ⟨byte1, _ | ⟨byte2, _ | ⟨byte3, _ | ⟨byte4, data⟩⟩⟩⟩⟩ <;> rfl

lemma readsNumbers_getMinimumCycleTime (addr : UInt16) :
    ReadsNumbers (getMinimumCycleTime addr) := by
  refine readsNumbers_readSdo .minimumCycleTime (fun data => ?_)
    fun n => readsNumbers_pure (UInt32.ofNat n)
  rcases data with _ | ⟨byte0, _ | ⟨byte1, _ | ⟨byte2, _ | ⟨byte3, data⟩⟩⟩⟩ <;> rfl

lemma readsNumbers_checkSyncMode (config : SlaveConfig) (addr : UInt16) (cycleTimeNs : UInt32) :
    ReadsNumbers (checkSyncMode config addr cycleTimeNs) := by
  refine readsNumbers_get.bind fun slave => ?_
  refine readsNumbers_byte .syncManagerSyncType rfl fun supportSyncType => ?_
  split_ifs
  · exact readsNumbers_throw _
  · refine (readsNumbers_getMinimumCycleTime addr).bind fun minCycleTimeNs => ?_
    split_ifs
    · exact readsNumbers_throw _
    · exact readsNumbers_pure ()

lemma readsNumbers_setSyncManagerMode (config : SlaveConfig) (addr : UInt16)
    (cycleTimeNs : UInt32) : ReadsNumbers (setSyncManagerMode config addr cycleTimeNs) := by
  refine (readsNumbers_writeSdo _ _ _ _).bind fun _ => ?_
  dsimp only
  split
  · refine (readsNumbers_writeSdo _ _ _ _).bind fun _ => ?_
    split
    · exact readsNumbers_pure ()
    · exact readsNumbers_writeSdo _ _ _ _
  · split
    · exact readsNumbers_pure ()
    · exact readsNumbers_writeSdo _ _ _ _

lemma readsNumbers_configureSyncManager (config : SlaveConfig) (direction : Direction)
    (smNumber : Option UInt8) : ReadsNumbers (configureSyncManager config direction smNumber) := by
  refine (readsNumbers_ofExec _).bind fun smNumber => ?_
  refine (readsNumbers_readSmType _ _).bind fun isPdoMapNone => ?_
  split_ifs
  · exact readsNumbers_pure 0
  · refine (readsNumbers_getCycleTime _ _).bind fun cycleTimeNs => ?_
    refine (readsNumbers_checkSyncMode _ _ _).bind fun _ => ?_
    exact (readsNumbers_setSyncManagerMode _ _ _).bind fun _ => readsNumbers_pure _

lemma readsNumbers_waitForStart (startTime polls : ℕ) :
    ReadsNumbers (waitForStart startTime polls) := by
  induction polls with
  | zero => exact readsNumbers_cut
  | succ polls ih =>
      refine (readsNumbers_readRegister _ _ _ _).bind fun sysTime => ?_
      refine (readsNumbers_ofExec _).bind fun sysTime => ?_
      split_ifs
      · exact readsNumbers_pure ()
      · exact ih

lemma readsNumbers_startSyncSignal (polls : ℕ) (config : SlaveConfig) (cycleTimeNs : UInt32) :
    ReadsNumbers (startSyncSignal polls config cycleTimeNs) := by
  refine (readsNumbers_writeRegister _ _ _).bind fun _ => ?_
  refine (readsNumbers_writeRegister _ _ _).bind fun _ => ?_
  refine (readsNumbers_readRegister _ _ _ _).bind fun sysTime => ?_
  refine (readsNumbers_ofExec _).bind fun sysTime => ?_
  generalize addUpTo 64 sysTime 10000000 = startTime
  refine (readsNumbers_ofExec startTime).bind fun startTime => ?_
  refine (readsNumbers_writeRegister _ _ _).bind fun _ => ?_
  refine (readsNumbers_ofExec _).bind fun activation => ?_
  refine (readsNumbers_writeRegister _ _ _).bind fun _ => ?_
  refine (readsNumbers_readRegister _ _ _ _).bind fun startTime => ?_
  refine (readsNumbers_ofExec _).bind fun startTime => ?_
  exact readsNumbers_waitForStart startTime polls

lemma readsNumbers_configureSyncModeSlave (polls : ℕ) (config : SlaveConfig) :
    ReadsNumbers (configureSyncModeSlave polls config) := by
  refine readsNumbers_get.bind fun slave => ?_
  split_ifs
  · refine (readsNumbers_configureSyncManager _ _ _).bind fun rxCycleTimeNs => ?_
    refine (readsNumbers_configureSyncManager _ _ _).bind fun txCycleTimeNs => ?_
    dsimp only
    split
    · exact readsNumbers_startSyncSignal polls config _
    · refine (readsNumbers_writeSdo _ _ _ _).bind fun _ => ?_
      exact readsNumbers_startSyncSignal polls config _
  · exact readsNumbers_pure ()

/-! ## All slaves -/

lemma numberReads_forSlots {body : SlaveConfig → Configure Slave Unit}
    (hbody : ∀ config, ReadsNumbers (body config)) (slots : List (Option Slave × SlaveConfig)) :
    NumberReads (forSlots body slots) := by
  induction slots with
  | nil => trivial
  | cons slot slots ih =>
      obtain ⟨slave | slave, config⟩ := slot
      · exact ih.bind (fun slots => ⟨(none, config) :: slots, fun _ => rfl⟩) fun _ => trivial
      · refine (hbody config slave).bind (fun slave => ⟨(some slave, config) :: slots, fun _ => rfl⟩)
          ?_
        rintro ⟨e | ⟨⟩, slave⟩
        · trivial
        · exact ih.bind (fun slots => ⟨(some slave, config) :: slots, fun _ => rfl⟩) fun _ => trivial

lemma readsNumbers_forSlaves {body : SlaveConfig → Configure Slave Unit}
    (hbody : ∀ config, ReadsNumbers (body config)) : ReadsNumbers (forSlaves body) := fun network =>
  (numberReads_forSlots hbody network.slaves).bind
    (fun slots => ⟨{ network with slaves := slots }, fun _ => rfl⟩) fun _ => trivial

lemma readsNumbers_configureFmmu : ReadsNumbers configureFmmu := by
  refine readsNumbers_get.bind fun network => ?_
  refine (readsNumbers_ofExec _).bind fun _ => ?_
  refine (readsNumbers_modify _).bind fun _ => ?_
  refine (readsNumbers_forSlaves readsNumbers_configureFmmuSlave).bind fun _ => ?_
  exact readsNumbers_pure _

/-- **All objects that the configuration reads are numbers.** -/
theorem readsNumbers_configureSlavesForOperation (polls : ℕ) :
    ReadsNumbers (PdoImage.configureSlavesForOperation polls) := by
  have honNetwork : ∀ {α : Type} {m : Configure Network α}, ReadsNumbers m →
      ReadsNumbers (PdoImage.onNetwork m) := fun hm => hm.zoom _ _
  refine ReadsNumbers.bind ?_ fun _ => honNetwork (readsNumbers_forSlaves fun config =>
    readsNumbers_configureSyncModeSlave polls config)
  refine (honNetwork (readsNumbers_forSlaves readsNumbers_setPdoConfigToOdSlave)).bind fun _ => ?_
  refine (honNetwork (readsNumbers_forSlaves readsNumbers_setPdoToSmSlave)).bind fun _ => ?_
  refine (honNetwork readsNumbers_configureFmmu).bind fun _ => ?_
  refine (readsNumbers_modify _).bind fun _ => ?_
  refine readsNumbers_get.bind fun image => ?_
  exact (readsNumbers_ofExec _).bind fun network => readsNumbers_modify _

end Configure

/-! ## The reads of a run -/

section

variable {σ S α : Type} {h : σ → (access : Access) → access.Answer × σ}

/-- Data that end before a byte that is read. -/
def EndsBefore (read : SdoReader × SdoResult) : Prop :=
  ∃ data, read.2 = .ok (.ok data) ∧ ∃ i ∈ read.1.indices, data.length ≤ i

lemma panics_of_isNumberRead {access : Access}
    {k : access.Answer → Program Access Access.Answer (Except ConfigError α × S)}
    (hk : IsNumberRead access k) {answer : access.Answer} {read : SdoReader × SdoResult}
    (hread : read ∈ sdoReadAt access k answer) (hends : EndsBefore read) :
    k answer = .fail .index := by
  cases access with
  | readSdo slave index subIndex =>
      obtain ⟨reader, s, rest, hk⟩ := hk
      have hat : sdoReadAt (.readSdo slave index subIndex) k answer = [(reader, answer)] := by
        have hfailed : k (.ok (.error .timeout) : SdoResult) = .ret (.error
            ⟨slave.info.slaveAddress, reader.kind ⟨index, subIndex, .timeout⟩⟩, s) := hk _
        have hreader : readerOf (k (.ok (.error .timeout) : SdoResult)) = some reader := by
          rw [hfailed]
          exact reader.sdoReader_kind _
        exact congrArg (fun o => (o.map fun reader => (reader, answer)).toList) hreader
      rw [hat] at hread
      obtain rfl := List.mem_singleton.mp hread
      obtain ⟨data, hdata, i, hi, hle⟩ := hends
      obtain rfl : answer = (.ok (.ok data) : SdoResult) := hdata
      refine (hk (.ok (.ok data))).trans ?_
      rw [SdoReader.read, readLe_data, mapM_index_of_le hi hle]
      rfl
  | writeSdo => cases hread
  | readRegister => cases hread
  | writeRegister => cases hread

/-- Data that end too early panic. -/
lemma panics_of_endsBefore {p : Program Access Access.Answer (Except ConfigError α × S)}
    (hp : NumberReads p) {w : σ} {read : SdoReader × SdoResult} (hread : read ∈ sdoReads h p w)
    (hends : EndsBefore read) : (p.run h w).1 = .panicked .index := by
  induction p generalizing w with
  | ret r => cases hread
  | fail e => cases hread
  | cut => cases hread
  | ask access k ih =>
      rw [Program.run]
      rcases List.mem_append.mp hread with hfirst | hrest
      · rw [panics_of_isNumberRead hp.1 hfirst hends]
        rfl
      · exact ih _ (hp.2 _) hrest

end

/-- **Objects as numbers.**  The typed readers read the number exactly if the data have its bytes.
The configuration reads numbers only, exactly those whose data suffice, and it panics at data that
end before. -/
theorem readsLittleEndian_iff_suffices (network : Network)
    (sifReadSdo : Slave → UInt16 → UInt8 → SdoResult) (slaveAddress : SlaveAddress)
    (index : UInt16) (subIndex : UInt8) (type : NumberType) (polls : ℕ) (image : PdoImage)
    (σ : Type) (h : σ → (access : Access) → access.Answer × σ) (w : σ) :
    (ReadsLittleEndian type.width type.fromLe
        (EtherCatMaster.readSdo network sifReadSdo slaveAddress index subIndex)
        (EtherCatMaster.readSdoAs network sifReadSdo slaveAddress index subIndex type) ↔
      ∀ data, EtherCatMaster.readSdo network sifReadSdo slaveAddress index subIndex =
        .ok (.ok data) → type.width ≤ data.length) ∧
    NumberReads (PdoImage.configureSlavesForOperation polls image) ∧
    ((∀ read ∈ sdoReads h (PdoImage.configureSlavesForOperation polls image) w,
        ReadsLittleEndian read.1.width id read.2 (read.1.read read.2)) ↔
      ∀ read ∈ sdoReads h (PdoImage.configureSlavesForOperation polls image) w,
        ∀ data, read.2 = .ok (.ok data) → read.1.Suffices data) ∧
    ((∃ read ∈ sdoReads h (PdoImage.configureSlavesForOperation polls image) w,
        EndsBefore read) →
      ((PdoImage.configureSlavesForOperation polls image).run h w).1 = .panicked .index) := by
  have hreads := Configure.readsNumbers_configureSlavesForOperation polls image
  refine ⟨readsLittleEndian_readLe_iff, hreads, ?_, ?_⟩
  · exact forall_congr' fun read => forall_congr' fun _ => read.1.readsLittleEndian_read_iff read.2
  · rintro ⟨read, hread, hends⟩
    exact panics_of_endsBefore hreads hread hends

/-! ## A cycle time of four bytes -/

/-- A slave with mailboxes, and with process data in its third and fourth sync manager. -/
def fourByteSlave : Slave :=
  { Slave.default with
    info := { SlaveInfo.default with
      configuredAddress := 1
      supportCoe := true
      numberOfSm := 4
      ramSizeKb := 1
      pdoStartAddress := some 0x1100
      pdoRamSize := 0x300
      sm := #v[some (.mailboxRx ⟨0, 0x80, 0x1000⟩), some (.mailboxTx ⟨1, 0x80, 0x1080⟩),
        some .processDataRx, some .processDataTx] } }

/-- Its object dictionary: no mappings, and a cycle time of one millisecond. -/
def fourByteDictionary : Dictionary := fun index subIndex =>
  if index = 0x1C00 then
    some [if subIndex = 0 ∨ subIndex = 4 then 4 else 3]
  else if index = 0x1C32 ∧ subIndex = 2 then
    some [0x40, 0x42, 0x0F, 0]
  else
    some [0]

/-- The image of that slave, before its configuration. -/
def fourByteImage : PdoImage where
  network := ⟨[(some fourByteSlave, .default)], 1⟩
  processDataTask := .new 0x1000 0 0

/-- **The bytes of a cycle time.**  It has the four bytes that it should have, and the configuration
panics at the fifth; and so does a reader of 16 bits at the second of a single byte. -/
theorem cycleTime_fourBytes :
    ((PdoImage.configureSlavesForOperation 1 fourByteImage).run Dictionaries.answer
        fun _ => fourByteDictionary).1 = .panicked .index ∧
      ¬ ReadsLittleEndian SdoReader.syncManagerCycleTime.width id
        (.ok (.ok [0x40, 0x42, 0x0F, 0]))
        (SdoReader.syncManagerCycleTime.read (.ok (.ok [0x40, 0x42, 0x0F, 0]))) ∧
      ¬ ReadsLittleEndian SdoReader.syncManagerCycleTime.width id
        (.ok (.ok [0x40, 0x42, 0x0F, 0, 1]))
        (SdoReader.syncManagerCycleTime.read (.ok (.ok [0x40, 0x42, 0x0F, 0, 1]))) ∧
      ¬ ReadsLittleEndian NumberType.u16.width NumberType.u16.fromLe (.ok (.ok [1]))
        (EtherCatMaster.readSdoAsU16 fourByteImage.network (fun _ _ _ => .ok (.ok [1]))
          (.slavePosition 0) 0x6000 1) := by
  refine ⟨?_, ?_, ?_, ?_⟩
  · decide +kernel
  · rintro ⟨⟩
  · rw [SdoReader.readsLittleEndian_read_iff]
    intro hsuffices
    have hsame := (hsuffices _ rfl).2 rfl
    revert hsame
    decide
  · rintro ⟨e, he⟩
    cases he

end EtherCat
