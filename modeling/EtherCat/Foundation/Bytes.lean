import EtherCat.Foundation.Exec

/-!
# Slices

Slices are lists.  Reading and writing at an index or a range panics outside the slice; the
element-wise copy of two zipped iterators, `overwrite`, never does and stops with the shorter
of the two.
-/

namespace Rust

open Exec

variable {α : Type*}

/-- `s[i]`. -/
def index (s : List α) (i : ℕ) : Exec α :=
  match s[i]? with
  | some a => .ok a
  | none => .error .index

/-- `&s[i..]`. -/
def sliceFrom (s : List α) (i : ℕ) : Exec (List α) :=
  check (i ≤ s.length) .index (s.drop i)

/-- `&s[..n]`. -/
def sliceTo (s : List α) (n : ℕ) : Exec (List α) :=
  check (n ≤ s.length) .index (s.take n)

/-- `&s[i..j]`. -/
def slice (s : List α) (i j : ℕ) : Exec (List α) :=
  check (i ≤ j ∧ j ≤ s.length) .index ((s.take j).drop i)

/-- `s[i] = a`. -/
def setIndex (s : List α) (i : ℕ) (a : α) : Exec (List α) :=
  check (i < s.length) .index (s.set i a)

/-- The elements of `src` written over `s` from offset `i` on. -/
def splice (s : List α) (i : ℕ) (src : List α) : List α :=
  s.take i ++ src ++ s.drop (i + src.length)

/-- `s[i..i + src.len()].copy_from_slice(src)`. -/
def copyFromSlice (s : List α) (i : ℕ) (src : List α) : Exec (List α) :=
  check (i + src.length ≤ s.length) .index (splice s i src)

/-- `dst.iter_mut().zip(src)` with every pair copied. -/
def overwrite (dst src : List α) : List α :=
  src.take dst.length ++ dst.drop src.length

/-- `s[..n].fill(a)`. -/
def fillTo (s : List α) (n : ℕ) (a : α) : Exec (List α) :=
  check (n ≤ s.length) .index (List.replicate n a ++ s.drop n)

/-- A closure that writes through a mutable slice: it cannot change the slice's length. -/
structure SliceWriter (α : Type*) where
  run : List α → List α
  length_run : ∀ s, (run s).length = s.length

/-- The writer that leaves the slice as it is. -/
def SliceWriter.keep : SliceWriter α := ⟨id, fun _ => rfl⟩

/-! ## When the accesses return -/

lemma index_eq_ok_iff {s : List α} {i : ℕ} {a : α} : index s i = .ok a ↔ s[i]? = some a := by
  unfold index
  split <;> simp_all

@[simp] lemma index_of_lt {s : List α} {i : ℕ} (h : i < s.length) : index s i = .ok s[i] := by
  simp [index_eq_ok_iff, h]

lemma sliceFrom_eq_ok_iff {s t : List α} {i : ℕ} :
    sliceFrom s i = .ok t ↔ i ≤ s.length ∧ t = s.drop i :=
  check_eq_ok_iff

lemma sliceTo_eq_ok_iff {s t : List α} {n : ℕ} :
    sliceTo s n = .ok t ↔ n ≤ s.length ∧ t = s.take n :=
  check_eq_ok_iff

lemma slice_eq_ok_iff {s t : List α} {i j : ℕ} :
    slice s i j = .ok t ↔ (i ≤ j ∧ j ≤ s.length) ∧ t = (s.take j).drop i :=
  check_eq_ok_iff

lemma setIndex_eq_ok_iff {s t : List α} {i : ℕ} {a : α} :
    setIndex s i a = .ok t ↔ i < s.length ∧ t = s.set i a :=
  check_eq_ok_iff

lemma copyFromSlice_eq_ok_iff {s src t : List α} {i : ℕ} :
    copyFromSlice s i src = .ok t ↔ i + src.length ≤ s.length ∧ t = splice s i src :=
  check_eq_ok_iff

lemma fillTo_eq_ok_iff {s t : List α} {n : ℕ} {a : α} :
    fillTo s n a = .ok t ↔ n ≤ s.length ∧ t = List.replicate n a ++ s.drop n :=
  check_eq_ok_iff

lemma length_fillTo {s t : List α} {n : ℕ} {a : α} (h : fillTo s n a = .ok t) :
    t.length = s.length := by
  obtain ⟨hn, rfl⟩ := fillTo_eq_ok_iff.mp h
  rw [List.length_append, List.length_replicate, List.length_drop]
  omega

/-! ## Lengths and contents -/

@[simp] lemma length_overwrite (dst src : List α) :
    (overwrite dst src).length = dst.length := by
  simp only [overwrite, List.length_append, List.length_take, List.length_drop]
  omega

lemma overwrite_getElem? (dst src : List α) (i : ℕ) :
    (overwrite dst src)[i]? = if i < src.length ∧ i < dst.length then src[i]? else dst[i]? := by
  unfold overwrite
  by_cases hs : i < src.length
  · by_cases hd : i < dst.length
    · have hm : i < (src.take dst.length).length := by simp; omega
      simp [List.getElem?_append_left hm, hs, hd]
    · have hd' : dst.length ≤ i := Nat.le_of_not_lt hd
      simp only [hs, hd, and_false, if_false]
      rw [List.getElem?_eq_none (by simp; omega), List.getElem?_eq_none hd']
  · simp only [hs, false_and, if_false]
    rw [List.getElem?_append_right (by simp; omega), List.getElem?_drop]
    by_cases hd : src.length ≤ dst.length
    · congr 1
      simp only [List.length_take]
      omega
    · rw [List.getElem?_eq_none (by simp; omega), List.getElem?_eq_none (by omega)]

lemma overwrite_of_length_eq {dst src : List α} (h : src.length = dst.length) :
    overwrite dst src = src := by
  simp [overwrite, h, List.take_of_length_le (Nat.le_of_eq h)]

/-- The buffer after a copy starts with what was copied. -/
lemma take_overwrite {dst src : List α} (h : src.length ≤ dst.length) :
    (overwrite dst src).take src.length = src := by
  simp [overwrite, List.take_of_length_le h]

lemma take_overwrite_eq (dst src : List α) (n : ℕ) :
    (overwrite dst src).take n = overwrite (dst.take n) src := by
  apply List.ext_getElem?
  intro i
  rw [List.getElem?_take, overwrite_getElem?, overwrite_getElem?, List.getElem?_take,
    List.length_take]
  by_cases hi : i < n
  · have hlt : i < min n dst.length ↔ i < dst.length := by omega
    simp only [hi, if_true, hlt]
  · have hlt : ¬ i < min n dst.length := by omega
    simp only [hi, if_false, hlt, and_false]

lemma length_splice {s src : List α} {i : ℕ} (h : i + src.length ≤ s.length) :
    (splice s i src).length = s.length := by
  simp only [splice, List.length_append, List.length_take, List.length_drop]
  omega

/-- Writing at the end of a prefix. -/
lemma splice_append {pre rest src : List α} {i : ℕ} (hi : i = pre.length) :
    splice (pre ++ rest) i src = pre ++ src ++ rest.drop src.length := by
  subst hi
  simp [splice, List.drop_append]

end Rust
