import EtherCat.Master.ConfigurePdo

/-!
# Object dictionaries

An object dictionary as far as the configuration reads it: what it says about the process data of
a sync manager (`SmBits`), and when an environment answers from it (`Serves`).  `described` reads
any dictionary, also one with objects that are missing or too short.
-/

namespace EtherCat

open Rust Rust.Exec BitField

/-- What comes of reading objects one after another. -/
inductive Reading (α : Type) : Type
  /-- The first object that is no value is not there. -/
  | missing
  /-- It is there, and it cannot be used. -/
  | broken
  | value (a : α)
  deriving DecidableEq, Repr

namespace Reading

variable {α β : Type}

/-- The next reading is made with what this one gives. -/
def bind : Reading α → (α → Reading β) → Reading β
  | missing, _ => missing
  | broken, _ => broken
  | value a, f => f a

instance : Monad Reading where
  pure := value
  bind := bind

@[simp] lemma value_bind (a : α) (f : α → Reading β) : (value a >>= f) = f a := rfl

lemma bind_assoc {γ : Type} (r : Reading α) (f : α → Reading β) (g : β → Reading γ) :
    (r >>= f) >>= g = r >>= fun a => f a >>= g := by
  cases r <;> rfl

/-- A value that a computation takes from an object. -/
def ofExec : Exec α → Reading α
  | .ok a => value a
  | .error _ => broken

lemma bind_eq_value {r : Reading α} {f : α → Reading β} {b : β} :
    (r >>= f) = value b ↔ ∃ a, r = value a ∧ f a = value b := by
  cases r with
  | missing => simp [Bind.bind, bind]
  | broken => simp [Bind.bind, bind]
  | value a => simp

end Reading

lemma Direction.smType_ne_zero (direction : Direction) : direction.smType ≠ 0 := by
  cases direction <;> decide

/-- The contents of the objects that there are. -/
abbrev Dictionary : Type := UInt16 → UInt8 → Option (List UInt8)

namespace Dictionary

/-- An object with new data. -/
def write (od : Dictionary) (index : UInt16) (subIndex : UInt8) (data : List UInt8) : Dictionary :=
  fun i s => if i = index ∧ s = subIndex then some data else od i s

/-- The first byte of an object. -/
def HasByte (od : Dictionary) (index : UInt16) (subIndex byte : UInt8) : Prop :=
  ∃ rest, od index subIndex = some (byte :: rest)

/-- The object at sub-index 0 says how many there are. -/
def Counts (od : Dictionary) (index : UInt16) (n : ℕ) : Prop :=
  n < 256 ∧ od.HasByte index 0 (.ofNat n)

/-- An object that describes an entry with this number of bits. -/
def EntryBits (od : Dictionary) (map : UInt16) (k bits : ℕ) : Prop :=
  ∃ data, od map (.ofNat k) = some data ∧ OdPdoEntry.bitLength.Fits data ∧
    OdPdoEntry.bitLength.val data = bits

/-- The entries of a mapping have these numbers of bits. -/
def MapBits (od : Dictionary) (map : UInt16) (bits : List ℕ) : Prop :=
  od.Counts map bits.length ∧ List.Forall₂ (od.EntryBits map) (List.range' 1 bits.length) bits

/-- An object that names a mapping. -/
def Names (od : Dictionary) (smAssign : UInt16) (k : ℕ) (map : UInt16) : Prop :=
  ∃ byte0 byte1 rest, od smAssign (.ofNat k) = some (byte0 :: byte1 :: rest) ∧
    UInt16.ofNat (fromLeBytes [byte0, byte1]) = map

/-- The mappings that are assigned to a sync manager, in order. -/
def Assigns (od : Dictionary) (smAssign : UInt16) (maps : List UInt16) : Prop :=
  od.Counts smAssign maps.length ∧
    List.Forall₂ (od.Names smAssign) (List.range' 1 maps.length) maps

/-- The object with the mappings of a sync manager. -/
def smAssign (smNumber : UInt8) : UInt16 := 0x1C10 + smNumber.toUInt16

/-- **The process data of a sync manager**: none, or that of the mappings assigned to it, with the
bits of their entries. -/
inductive SmBits (od : Dictionary) (direction : Direction) (smNumber : UInt8) : ℕ → Prop
  | none (htype : od.HasByte 0x1C00 (smNumber + 1) 0) : SmBits od direction smNumber 0
  | maps (htype : od.HasByte 0x1C00 (smNumber + 1) direction.smType)
      (maps : List (UInt16 × List ℕ)) (hassigns : od.Assigns (smAssign smNumber) (maps.map Prod.fst))
      (hmaps : ∀ m ∈ maps, od.MapBits m.1 m.2) :
      SmBits od direction smNumber (maps.map fun m => m.2.sum).sum

/-! ## Reading any dictionary -/

/-- The data of an object. -/
def object (od : Dictionary) (index : UInt16) (subIndex : UInt8) : Reading (List UInt8) :=
  match od index subIndex with
  | none => .missing
  | some data => .value data

/-- The first byte of an object. -/
def firstByte (od : Dictionary) (objectIndex : UInt16) (subIndex : UInt8) : Reading UInt8 := do
  let data ← od.object objectIndex subIndex
  .ofExec (index data 0)

/-- The number of sync managers is read and checked. -/
def channels (od : Dictionary) : Reading Unit := do
  let numSmComm ← od.firstByte 0x1C00 0
  .ofExec (assert (4 ≤ numSmComm))

/-- The bits of these entries of a mapping, and of those before. -/
def entriesBits (od : Dictionary) (map : UInt16) : List ℕ → ℕ → Reading ℕ
  | [], total => .value total
  | k :: indices, total => do
    let entry ← od.object map (.ofNat k)
    let bits ← .ofExec (OdPdoEntry.bitLength.get entry)
    od.entriesBits map indices (total + bits)

/-- The bits of these mappings of a sync manager, and of those before. -/
def mappingsBits (od : Dictionary) (smAssign : UInt16) : List ℕ → ℕ → Reading ℕ
  | [], total => .value total
  | k :: indices, total => do
    let map ← od.object smAssign (.ofNat k)
    let byte0 ← .ofExec (index map 0)
    let byte1 ← .ofExec (index map 1)
    let map := UInt16.ofNat (fromLeBytes [byte0, byte1])
    let numEntry ← od.firstByte map 0
    let total ← od.entriesBits map (List.range' 1 numEntry.toNat) total
    od.mappingsBits smAssign indices total

/-- Whether the sync manager has no process data. -/
def mapsNothing (od : Dictionary) (direction : Direction) (smNumber : UInt8) : Reading Bool := do
  let smType ← od.firstByte 0x1C00 (smNumber + 1)
  if smType = 0 then .value true
  else if smType = direction.smType then .value false
  else .broken

/-- The bits of a sync manager. -/
def smBits (od : Dictionary) (direction : Direction) (smNumber : UInt8) : Reading ℕ := do
  let isPdoMapNone ← od.mapsNothing direction smNumber
  if isPdoMapNone then
    .value 0
  else do
    let numMaps ← od.firstByte (smAssign smNumber) 0
    od.mappingsBits (smAssign smNumber) (List.range' 1 numMaps.toNat) 0

/-- **What a dictionary describes** as the process data of a direction, in bits. -/
def described (od : Dictionary) (direction : Direction) (smNumber : UInt8) : Reading ℕ := do
  od.channels
  od.smBits direction smNumber

lemma bitLength_lt {entry : List UInt8} {bits : ℕ}
    (h : Reading.ofExec (OdPdoEntry.bitLength.get entry) = .value bits) : bits < 256 := by
  rcases hget : OdPdoEntry.bitLength.get entry with e | n
  · rw [hget] at h
    cases h
  · rw [hget] at h
    cases h
    rw [(Field.get_eq_ok_iff.mp hget).2]
    exact OdPdoEntry.bitLength.val_lt entry

/-- An entry has at most 255 bits. -/
lemma entriesBits_le {od : Dictionary} {map : UInt16} {indices : List ℕ} {total n : ℕ}
    (h : od.entriesBits map indices total = .value n) : n ≤ total + 255 * indices.length := by
  induction indices generalizing total with
  | nil =>
      cases h
      exact Nat.le_refl _
  | cons k indices ih =>
      obtain ⟨entry, -, h⟩ := Reading.bind_eq_value.mp h
      obtain ⟨bits, hbits, h⟩ := Reading.bind_eq_value.mp h
      have hlt := bitLength_lt hbits
      have hle := ih h
      rw [List.length_cons]
      omega

/-! ## Dictionaries that can be read -/

lemma object_eq {od : Dictionary} {index : UInt16} {subIndex : UInt8} {data : List UInt8}
    (hdata : od index subIndex = some data) : od.object index subIndex = .value data := by
  rw [object, hdata]

lemma HasByte.firstByte_eq {od : Dictionary} {objectIndex : UInt16} {subIndex byte : UInt8}
    (hbyte : od.HasByte objectIndex subIndex byte) :
    od.firstByte objectIndex subIndex = .value byte := by
  obtain ⟨rest, hdata⟩ := hbyte
  rw [firstByte, object_eq hdata]
  rfl

lemma Counts.firstByte_eq {od : Dictionary} {index : UInt16} {n : ℕ} (hcounts : od.Counts index n) :
    od.firstByte index 0 = .value (.ofNat n) ∧ (UInt8.ofNat n).toNat = n := by
  refine ⟨hcounts.2.firstByte_eq, ?_⟩
  rw [UInt8.toNat_ofNat', Nat.mod_eq_of_lt hcounts.1]

lemma entriesBits_eq {od : Dictionary} {map : UInt16} {indices bits : List ℕ}
    (hbits : List.Forall₂ (od.EntryBits map) indices bits) (total : ℕ) :
    od.entriesBits map indices total = .value (total + bits.sum) := by
  induction hbits generalizing total with
  | nil => rfl
  | @cons k n indices bits hentry hbits ih =>
      obtain ⟨data, hdata, hfits, rfl⟩ := hentry
      rw [entriesBits, object_eq hdata, Reading.value_bind, Field.get_of_fits hfits]
      change od.entriesBits map indices _ = _
      rw [ih, List.sum_cons, Nat.add_assoc]

lemma mappingsBits_eq {od : Dictionary} {smAssign : UInt16} {indices : List ℕ}
    {maps : List (UInt16 × List ℕ)}
    (hassigns : List.Forall₂ (od.Names smAssign) indices (maps.map Prod.fst))
    (hmaps : ∀ m ∈ maps, od.MapBits m.1 m.2) (total : ℕ) :
    od.mappingsBits smAssign indices total =
      .value (total + (maps.map fun m => m.2.sum).sum) := by
  induction maps generalizing indices total with
  | nil =>
      cases hassigns
      rfl
  | cons m maps ih =>
      rcases hassigns with - | ⟨⟨byte0, byte1, rest, hdata, hmap⟩, hassigns⟩
      obtain ⟨hcounts, hentries⟩ := hmaps m List.mem_cons_self
      obtain ⟨hcount, htoNat⟩ := hcounts.firstByte_eq
      rw [mappingsBits, object_eq hdata, Reading.value_bind]
      change (od.firstByte (UInt16.ofNat (fromLeBytes [byte0, byte1])) 0 >>= _) = _
      rw [hmap, hcount, Reading.value_bind, htoNat, entriesBits_eq hentries, Reading.value_bind,
        ih hassigns fun m hm => hmaps m (List.mem_cons_of_mem _ hm), List.map_cons, List.sum_cons,
        Nat.add_assoc]

lemma SmBits.smBits_eq {od : Dictionary} {direction : Direction} {smNumber : UInt8} {total : ℕ}
    (h : od.SmBits direction smNumber total) : od.smBits direction smNumber = .value total := by
  cases h with
  | none htype =>
      rw [smBits, mapsNothing, htype.firstByte_eq]
      rfl
  | maps htype maps hassigns hmaps =>
      obtain ⟨hcount, htoNat⟩ := hassigns.1.firstByte_eq
      rw [smBits, mapsNothing, htype.firstByte_eq, Reading.value_bind,
        if_neg direction.smType_ne_zero, if_pos rfl, Reading.value_bind,
        if_neg Bool.false_ne_true, hcount, Reading.value_bind, htoNat,
        mappingsBits_eq hassigns.2 hmaps, Nat.zero_add]

end Dictionary

/-- In this state the environment answers for the slaves with these facts from the dictionary, and
accepts every register. -/
structure Serves {σ : Type} (h : σ → (access : Access) → access.Answer × σ) (w : σ)
    (info : SlaveInfo) (od : Dictionary) : Prop where
  readSdo : ∀ slave index subIndex data, slave.info = info → od index subIndex = some data →
    h w (.readSdo slave index subIndex) =
      ((.ok (.ok data) : Exec (Except (TaskError SdoErrorKind) (List UInt8))), w)
  writeRegister : ∀ target address data,
    h w (.writeRegister target address data) =
      ((.ok (.ok ()) : Exec (Except (TaskError Unit) Unit)), w)

/-- It refuses to read what is not in the dictionary. -/
def Refuses {σ : Type} (h : σ → (access : Access) → access.Answer × σ) (w : σ)
    (info : SlaveInfo) (od : Dictionary) : Prop :=
  ∀ slave index subIndex, slave.info = info → od index subIndex = none →
    ∃ e, h w (.readSdo slave index subIndex) =
      ((.ok (.error e) : Exec (Except (TaskError SdoErrorKind) (List UInt8))), w)

/-- The dictionaries of all slaves. -/
abbrev Dictionaries : Type := SlaveAddress → Dictionary

namespace Dictionaries

/-- The environment of slaves that store what is written and return it on reading.  Every register
can be written, and reads as zero except for the time. -/
def answer (ods : Dictionaries) : (access : Access) → access.Answer × Dictionaries
  | .readSdo slave index subIndex =>
    ((match ods slave.info.slaveAddress index subIndex with
      | some data => .ok (.ok data)
      | none => .ok (.error (.taskSpecific (.abortCode .doesNotExistInDict))) :
        Exec (Except (TaskError SdoErrorKind) (List UInt8))), ods)
  | .writeSdo slave index subIndex data =>
    ((.ok (.ok ()) : Exec (Except (TaskError SdoErrorKind) Unit)),
      Function.update ods slave.info.slaveAddress
        ((ods slave.info.slaveAddress).write index subIndex data))
  | .readRegister _ address dataSize =>
    ((.ok (.ok (if address = DcSystemTime.address then 1 :: List.replicate (dataSize - 1) 0
        else List.replicate dataSize 0)) : Exec (Except (TaskError Unit) (List UInt8))), ods)
  | .writeRegister .. => ((.ok (.ok ()) : Exec (Except (TaskError Unit) Unit)), ods)

lemma serves (ods : Dictionaries) (info : SlaveInfo) :
    Serves answer ods info (ods info.slaveAddress) where
  readSdo slave index subIndex data hslave hdata := by
    subst hslave
    simp only [answer, hdata]
    rfl
  writeRegister target address data := rfl

end Dictionaries

end EtherCat
