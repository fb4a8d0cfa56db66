import EtherCat.Foundation.Covered
import EtherCat.Frame.Coe
import EtherCat.Slave.Network
import EtherCat.Task.Error
import EtherCat.Task.SdoError

/-!
# Objects as numbers

The readers of `read_write_as.rs` take the data of an object as a number with little-endian bytes.
They index the data without a look at its length, so that they read the number exactly if it is
there (`readsLittleEndian_readLe_iff`).
-/

namespace EtherCat

open Rust Rust.Exec BitField

/-- The result of `read_sdo`. -/
abbrev SdoResult := Exec (Except (TaskError SdoErrorKind) (List UInt8))

/-- A number from the bytes at some indices of the data. -/
def readLe {E β : Type} (indices : List ℕ) (value : ℕ → β) (result : Exec (Except E (List UInt8))) :
    Exec (Except E β) := do
  match ← result with
  | .error e => .ok (.error e)
  | .ok data => do
    let bytes ← indices.mapM (index data)
    .ok (.ok (value (fromLeBytes bytes)))

/-- The types of the readers. -/
inductive NumberType
  | bool | u8 | i8 | u16 | i16 | u32 | i32 | u64 | i64
  deriving DecidableEq, Repr

namespace NumberType

/-- The values of a type. -/
abbrev Value : NumberType → Type
  | bool => Bool
  | u8 => UInt8
  | i8 => Int8
  | u16 => UInt16
  | i16 => Int16
  | u32 => UInt32
  | i32 => Int32
  | u64 => UInt64
  | i64 => Int64

/-- The number of bytes. -/
def width : NumberType → ℕ
  | bool | u8 | i8 => 1
  | u16 | i16 => 2
  | u32 | i32 => 4
  | u64 | i64 => 8

/-- `from_le_bytes`, from the number without a sign; a `bool` is its lowest bit. -/
def fromLe : (type : NumberType) → ℕ → type.Value
  | bool, n => n &&& 1 == 1
  | u8, n => .ofNat n
  | i8, n => .ofUInt8 (.ofNat n)
  | u16, n => .ofNat n
  | i16, n => .ofUInt16 (.ofNat n)
  | u32, n => .ofNat n
  | i32, n => .ofUInt32 (.ofNat n)
  | u64, n => .ofNat n
  | i64, n => .ofUInt64 (.ofNat n)

end NumberType

namespace EtherCatMaster

section

variable (network : Network) (sifReadSdo : Slave → UInt16 → UInt8 → SdoResult)
  (slaveAddress : SlaveAddress) (index : UInt16) (subIndex : UInt8)

/-- The bytes of an object. -/
def readSdo : SdoResult := do
  let (slave, _) ← unwrap (← network.slave slaveAddress)
  sifReadSdo slave index subIndex

/-- A reader of a type. -/
def readSdoAs (type : NumberType) : Exec (Except (TaskError SdoErrorKind) type.Value) :=
  readLe (List.range type.width) type.fromLe (readSdo network sifReadSdo slaveAddress index subIndex)

/-- The object as a `bool`. -/
def readSdoAsBool : Exec (Except (TaskError SdoErrorKind) Bool) :=
  readSdoAs network sifReadSdo slaveAddress index subIndex .bool

/-- As a `u8`. -/
def readSdoAsU8 : Exec (Except (TaskError SdoErrorKind) UInt8) :=
  readSdoAs network sifReadSdo slaveAddress index subIndex .u8

/-- As an `i8`. -/
def readSdoAsI8 : Exec (Except (TaskError SdoErrorKind) Int8) :=
  readSdoAs network sifReadSdo slaveAddress index subIndex .i8

/-- As a `u16`. -/
def readSdoAsU16 : Exec (Except (TaskError SdoErrorKind) UInt16) :=
  readSdoAs network sifReadSdo slaveAddress index subIndex .u16

/-- As an `i16`. -/
def readSdoAsI16 : Exec (Except (TaskError SdoErrorKind) Int16) :=
  readSdoAs network sifReadSdo slaveAddress index subIndex .i16

/-- As a `u32`. -/
def readSdoAsU32 : Exec (Except (TaskError SdoErrorKind) UInt32) :=
  readSdoAs network sifReadSdo slaveAddress index subIndex .u32

/-- As an `i32`. -/
def readSdoAsI32 : Exec (Except (TaskError SdoErrorKind) Int32) :=
  readSdoAs network sifReadSdo slaveAddress index subIndex .i32

/-- As a `u64`. -/
def readSdoAsU64 : Exec (Except (TaskError SdoErrorKind) UInt64) :=
  readSdoAs network sifReadSdo slaveAddress index subIndex .u64

/-- As an `i64`. -/
def readSdoAsI64 : Exec (Except (TaskError SdoErrorKind) Int64) :=
  readSdoAs network sifReadSdo slaveAddress index subIndex .i64

end

end EtherCatMaster

/-! ## What a reader should make of the data -/

/-- Data that are too short are an error, and longer ones are read up to the width. -/
def ReadsLittleEndian {E β : Type} (width : ℕ) (value : ℕ → β)
    (result : Exec (Except E (List UInt8))) (returned : Exec (Except E β)) : Prop :=
  match result with
  | .ok (.ok data) =>
    if data.length < width then ∃ e, returned = .ok (.error e)
    else returned = .ok (.ok (value (fromLeBytes (data.take width))))
  | .ok (.error e) => returned = .ok (.error e)
  | .error e => returned = .error e

lemma fromLeBytes_injective {bs cs : List UInt8} (hlength : bs.length = cs.length)
    (h : fromLeBytes bs = fromLeBytes cs) : bs = cs := by
  rw [eq_iff_bitAt hlength]
  intro k hk
  have hbit := congrArg (fun n => n.testBit k) h
  rw [fromLeBytes, fromLeBytes] at hbit
  simpa [Nat.testBit_ofBits, hk, ← hlength] using hbit

section

variable {E β : Type} {indices : List ℕ} {value : ℕ → β}

lemma readLe_data (data : List UInt8) :
    readLe indices value (.ok (.ok data) : Exec (Except E (List UInt8))) =
      (indices.mapM (index data)).map fun bytes => .ok (value (fromLeBytes bytes)) := by
  rw [readLe, ok_bind]
  dsimp only
  rcases indices.mapM (index data) with e | bytes <;> rfl

/-- The first bytes are read if the indices are the first ones. -/
lemma mapM_index_range {data : List UInt8} {n : ℕ} (h : n ≤ data.length) :
    (List.range n).mapM (index data) = .ok (data.take n) := by
  rw [mapM_eq_ok_iff, List.forall₂_iff_get]
  refine ⟨by simp [h], fun i hi hi' => ?_⟩
  simp only [List.get_eq_getElem, List.getElem_range, List.getElem_take]
  have hlt : i < data.length := by
    rw [List.length_range] at hi
    omega
  exact index_of_lt hlt

/-- An index behind the data panics. -/
lemma mapM_index_of_le {data : List UInt8} {i : ℕ} (hi : i ∈ indices) (h : data.length ≤ i) :
    indices.mapM (index data) = .error .index := by
  induction indices with
  | nil => cases hi
  | cons j indices ih =>
      rw [List.mapM_cons]
      by_cases hj : j < data.length
      · have hmem : i ∈ indices := by
          rcases List.mem_cons.mp hi with rfl | hmem
          · omega
          · exact hmem
        rw [index_of_lt hj, ok_bind, ih hmem]
        rfl
      · rw [index, List.getElem?_eq_none (Nat.le_of_not_lt hj)]
        rfl

/-- No data are an error. -/
lemma readLe_ne_error {data : List UInt8} (e : E) :
    readLe indices value (.ok (.ok data) : Exec (Except E (List UInt8))) ≠ .ok (.error e) := by
  rw [readLe_data]
  rcases indices.mapM (index data) with e' | bytes <;> rintro ⟨⟩

/-- Only data can be read in a wrong way. -/
lemma readsLittleEndian_iff_of_data {width : ℕ} {result : Exec (Except E (List UInt8))}
    {P : List UInt8 → Prop}
    (h : ∀ data, ReadsLittleEndian width value (.ok (.ok data) : Exec (Except E (List UInt8)))
      (readLe indices value (.ok (.ok data))) ↔ P data) :
    ReadsLittleEndian width value result (readLe indices value result) ↔
      ∀ data, result = .ok (.ok data) → P data := by
  rcases result with e | (e | data)
  · exact ⟨fun _ _ hdata => (by cases hdata), fun _ => rfl⟩
  · exact ⟨fun _ _ hdata => (by cases hdata), fun _ => rfl⟩
  · rw [h]
    refine ⟨fun hP data' hdata => ?_, fun hP => hP data rfl⟩
    cases hdata
    exact hP

/-- **When the first bytes are read**: exactly if they are there. -/
lemma readsLittleEndian_readLe_iff {width : ℕ} {result : Exec (Except E (List UInt8))} :
    ReadsLittleEndian width value result (readLe (List.range width) value result) ↔
      ∀ data, result = .ok (.ok data) → width ≤ data.length := by
  refine readsLittleEndian_iff_of_data fun data => ?_
  rw [ReadsLittleEndian]
  split_ifs with hshort
  · refine ⟨fun ⟨e, he⟩ => absurd he (readLe_ne_error e), fun hle => ?_⟩
    omega
  · refine ⟨fun _ => Nat.le_of_not_lt hshort, fun hle => ?_⟩
    rw [readLe_data, mapM_index_range hle]
    rfl

end

end EtherCat
