import EtherCat.Foundation.Bytes
import Mathlib.Data.Nat.Bitwise
import Mathlib.Data.UInt

/-!
# Bit fields of byte slices

A bit-field declaration names a range of bits `msb, lsb` of a byte slice.  In the default
numbering bit `i` is bit `i % 8` of byte `i / 8`; in the `MSB0` numbering it is bit
`7 - i % 8` of that byte, and the range is read most significant bit first.

`Field.val` is the number a getter returns and `Field.put` the slice a setter leaves, both
total; `Field.get` and `Field.set` are the accessors themselves, which panic when the range
reaches outside the slice.  Everything a client needs follows from one description of each in
terms of single bits: `testBit_val` and `bitAt_put`.
-/

namespace BitField

open Rust

/-- Bit `i` of a byte slice, in the little-endian numbering.  Outside the slice it is `false`. -/
def bitAt (bs : List UInt8) (i : ℕ) : Bool := (bs.getD (i / 8) 0).toBitVec.getLsbD (i % 8)

/-- One byte with its bit `k` replaced. -/
def setByteBit (x : UInt8) (k : ℕ) (b : Bool) : UInt8 :=
  ⟨x.toBitVec &&& ~~~(1#8 <<< k) ||| (if b then 1#8 <<< k else 0#8)⟩

/-- The slice with bit `i` replaced. -/
def setBit (bs : List UInt8) (i : ℕ) (b : Bool) : List UInt8 :=
  bs.modify (i / 8) (fun x => setByteBit x (i % 8) b)

lemma getLsbD_setByteBit (x : UInt8) {k j : ℕ} (hk : k < 8) (hj : j < 8) (b : Bool) :
    (setByteBit x k b).toBitVec.getLsbD j = if j = k then b else x.toBitVec.getLsbD j := by
  have hone : ∀ m < 8, (1#8).getLsbD m = decide (m = 0) := by decide
  have hbit : (1#8 <<< k).getLsbD j = decide (j = k) := by
    rw [BitVec.getLsbD_shiftLeft]
    by_cases hlt : j < k
    · simp [hlt, Nat.ne_of_lt hlt]
    · rw [hone _ (by omega)]
      have hiff : j - k = 0 ↔ j = k := by omega
      simp only [hlt, hj, hiff, decide_true, decide_false, Bool.not_false, Bool.true_and]
  simp only [setByteBit, BitVec.getLsbD_or, BitVec.getLsbD_and, BitVec.getLsbD_not, hbit, hj]
  by_cases hjk : j = k <;> cases b <;> simp [hjk, hbit, hk]

@[simp] lemma length_setBit (bs : List UInt8) (i : ℕ) (b : Bool) :
    (setBit bs i b).length = bs.length := by
  simp [setBit]

lemma bitAt_setBit (bs : List UInt8) (i j : ℕ) (b : Bool) (hi : i / 8 < bs.length) :
    bitAt (setBit bs i b) j = if j = i then b else bitAt bs j := by
  unfold bitAt setBit
  by_cases hbyte : j / 8 = i / 8
  · have hget : (bs.modify (i / 8) (fun x => setByteBit x (i % 8) b)).getD (j / 8) 0 =
        setByteBit (bs.getD (j / 8) 0) (i % 8) b := by
      rw [hbyte]
      simp [List.getD_eq_getElem?_getD, hi]
    rw [hget, getLsbD_setByteBit _ (by omega) (by omega)]
    have hiff : j % 8 = i % 8 ↔ j = i := by omega
    simp [hiff]
  · have hne : j ≠ i := fun h => hbyte (by rw [h])
    rw [if_neg hne]
    simp [List.getD_eq_getElem?_getD, Ne.symm hbyte]

lemma setBit_append_left {bs cs : List UInt8} {i : ℕ} (hi : i / 8 < bs.length) (b : Bool) :
    setBit (bs ++ cs) i b = setBit bs i b ++ cs := by
  unfold setBit
  rw [List.modify_eq_take_cons_drop (by simp; omega), List.modify_eq_take_cons_drop hi,
    List.getElem_append_left hi, List.take_append_of_le_length (by omega),
    List.drop_append_of_le_length (by omega)]
  simp

lemma drop_setBit {bs : List UInt8} {i n : ℕ} (hi : i / 8 < n) (b : Bool) :
    (setBit bs i b).drop n = bs.drop n := by
  apply List.ext_getElem?
  intro j
  have hne : i / 8 ≠ n + j := by omega
  simp [setBit, List.getElem?_drop, hne]

/-! ## Fields -/

/-- How the bits of a slice are numbered. -/
inductive BitOrder
  | lsb0
  | msb0
  deriving DecidableEq, Repr

/-- A declared bit range `msb, lsb`. -/
structure Field where
  msb : ℕ
  lsb : ℕ
  order : BitOrder := .lsb0
  deriving DecidableEq, Repr

namespace Field

/-- A single-bit field. -/
def bit (i : ℕ) : Field := ⟨i, i, .lsb0⟩

/-- The number of bits of the field. -/
def width (f : Field) : ℕ := f.msb + 1 - f.lsb

/-- Where bit `k` of the field's value is, in the little-endian numbering of the slice. -/
def bitPos (f : Field) (k : ℕ) : ℕ :=
  match f.order with
  | .lsb0 => f.lsb + k
  | .msb0 => 8 * ((f.msb - k) / 8) + (7 - (f.msb - k) % 8)

/-- The number stored in the field. -/
def val (f : Field) (bs : List UInt8) : ℕ :=
  Nat.ofBits (fun k : Fin f.width => bitAt bs (f.bitPos k))

/-- The slice with the lowest `n` bits of the field set to those of `v`. -/
def putLow (f : Field) (bs : List UInt8) (v : ℕ) : ℕ → List UInt8
  | 0 => bs
  | n + 1 => setBit (f.putLow bs v n) (f.bitPos n) (v.testBit n)

/-- The slice with `v`, truncated to the field's width, stored in the field. -/
def put (f : Field) (bs : List UInt8) (v : ℕ) : List UInt8 := f.putLow bs v f.width

/-- The field lies inside the slice. -/
def Fits (f : Field) (bs : List UInt8) : Prop := f.msb / 8 < bs.length

instance (f : Field) (bs : List UInt8) : Decidable (f.Fits bs) :=
  inferInstanceAs (Decidable (f.msb / 8 < bs.length))

/-- The getter. -/
def get (f : Field) (bs : List UInt8) : Exec ℕ := Exec.check (f.Fits bs) .index (f.val bs)

/-- The getter of a single-bit field. -/
def getBool (f : Field) (bs : List UInt8) : Exec Bool :=
  Exec.check (f.Fits bs) .index (f.val bs != 0)

/-- The setter. -/
def set (f : Field) (bs : List UInt8) (v : ℕ) : Exec (List UInt8) :=
  Exec.check (f.Fits bs) .index (f.put bs v)

/-- The setter of a single-bit field. -/
def setBool (f : Field) (bs : List UInt8) (b : Bool) : Exec (List UInt8) := f.set bs b.toNat

@[simp] lemma get_of_fits {f : Field} {bs : List UInt8} (h : f.Fits bs) :
    f.get bs = .ok (f.val bs) := Exec.check_of h

@[simp] lemma getBool_of_fits {f : Field} {bs : List UInt8} (h : f.Fits bs) :
    f.getBool bs = .ok (f.val bs != 0) := Exec.check_of h

@[simp] lemma set_of_fits {f : Field} {bs : List UInt8} (h : f.Fits bs) (v : ℕ) :
    f.set bs v = .ok (f.put bs v) := Exec.check_of h

lemma set_eq_ok_iff {f : Field} {bs bs' : List UInt8} {v : ℕ} :
    f.set bs v = .ok bs' ↔ f.Fits bs ∧ bs' = f.put bs v := Exec.check_eq_ok_iff

lemma get_eq_ok_iff {f : Field} {bs : List UInt8} {v : ℕ} :
    f.get bs = .ok v ↔ f.Fits bs ∧ v = f.val bs := Exec.check_eq_ok_iff

lemma getBool_eq_ok_iff {f : Field} {bs : List UInt8} {b : Bool} :
    f.getBool bs = .ok b ↔ f.Fits bs ∧ b = (f.val bs != 0) := Exec.check_eq_ok_iff

/-! ## The field bit by bit -/

lemma bitPos_injOn (f : Field) {j k : ℕ} (hj : j < f.width) (hk : k < f.width)
    (h : f.bitPos j = f.bitPos k) : j = k := by
  unfold width at hj hk
  unfold bitPos at h
  cases hord : f.order <;> simp only [hord] at h <;> omega

lemma bitPos_byte_le (f : Field) {k : ℕ} (hk : k < f.width) : f.bitPos k / 8 ≤ f.msb / 8 := by
  unfold width at hk
  unfold bitPos
  cases hord : f.order <;> simp only <;> omega

lemma bitPos_byte_lt {f : Field} {bs : List UInt8} (hfit : f.Fits bs) {k : ℕ}
    (hk : k < f.width) : f.bitPos k / 8 < bs.length :=
  Nat.lt_of_le_of_lt (f.bitPos_byte_le hk) hfit

lemma testBit_val (f : Field) (bs : List UInt8) (k : ℕ) :
    (f.val bs).testBit k = (decide (k < f.width) && bitAt bs (f.bitPos k)) := by
  unfold val
  rw [Nat.testBit_ofBits]
  by_cases hk : k < f.width <;> simp [hk]

lemma val_lt (f : Field) (bs : List UInt8) : f.val bs < 2 ^ f.width := Nat.ofBits_lt_two_pow _

/-- A single-bit field is set with its bit. -/
lemma val_bit_bne_zero (i : ℕ) (bs : List UInt8) : ((bit i).val bs != 0) = bitAt bs i := by
  have hwidth : (bit i).width = 1 := Nat.add_sub_cancel_left i 1
  have hbit := testBit_val (bit i) bs 0
  have hlt := val_lt (bit i) bs
  rw [hwidth] at hlt hbit
  have hvalue : (bit i).val bs = 0 ∨ (bit i).val bs = 1 := by omega
  rcases hvalue with h | h <;> rw [h] at hbit ⊢ <;> exact hbit

@[simp] lemma length_putLow (f : Field) (bs : List UInt8) (v n : ℕ) :
    (f.putLow bs v n).length = bs.length := by
  induction n with
  | zero => rfl
  | succ n ih => simp [putLow, ih]

@[simp] lemma length_put (f : Field) (bs : List UInt8) (v : ℕ) :
    (f.put bs v).length = bs.length := length_putLow ..

/-- Storing the lowest `n` bits sets exactly the positions of these bits. -/
lemma bitAt_putLow {f : Field} {bs : List UInt8} (hfit : f.Fits bs) (v : ℕ) {n : ℕ}
    (hn : n ≤ f.width) (i : ℕ) :
    bitAt (f.putLow bs v n) i =
      if h : ∃ k, k < n ∧ f.bitPos k = i then v.testBit h.choose else bitAt bs i := by
  induction n with
  | zero => simp [putLow]
  | succ n ih =>
      have hlen : f.bitPos n / 8 < (f.putLow bs v n).length := by
        simpa using bitPos_byte_lt hfit (Nat.lt_of_succ_le hn)
      rw [putLow, bitAt_setBit _ _ _ _ hlen, ih (by omega)]
      by_cases hi : i = f.bitPos n
      · have hex : ∃ k, k < n + 1 ∧ f.bitPos k = i := ⟨n, by omega, hi.symm⟩
        have hch : hex.choose = n :=
          f.bitPos_injOn (by have := hex.choose_spec.1; omega) (by omega)
            (hex.choose_spec.2.trans hi)
        rw [if_pos hi, dif_pos hex, hch]
      · rw [if_neg hi]
        have hiff : (∃ k, k < n ∧ f.bitPos k = i) ↔ ∃ k, k < n + 1 ∧ f.bitPos k = i := by
          constructor
          · rintro ⟨k, hk, hki⟩
            exact ⟨k, by omega, hki⟩
          · rintro ⟨k, hk, hki⟩
            refine ⟨k, ?_, hki⟩
            rcases Nat.lt_succ_iff_lt_or_eq.mp hk with hlt | rfl
            · exact hlt
            · exact absurd hki.symm hi
        by_cases hex : ∃ k, k < n ∧ f.bitPos k = i
        · have hex' := hiff.mp hex
          have hch : hex.choose = hex'.choose :=
            f.bitPos_injOn (by have := hex.choose_spec.1; omega)
              (by have := hex'.choose_spec.1; omega)
              (hex.choose_spec.2.trans hex'.choose_spec.2.symm)
          rw [dif_pos hex, dif_pos hex', hch]
        · rw [dif_neg hex, dif_neg (fun h => hex (hiff.mpr h))]

/-- A setter writes the bits of the value at the field's positions. -/
lemma bitAt_put_pos {f : Field} {bs : List UInt8} (hfit : f.Fits bs) (v : ℕ) {k : ℕ}
    (hk : k < f.width) : bitAt (f.put bs v) (f.bitPos k) = v.testBit k := by
  have hex : ∃ k', k' < f.width ∧ f.bitPos k' = f.bitPos k := ⟨k, hk, rfl⟩
  rw [put, bitAt_putLow hfit v (Nat.le_refl _), dif_pos hex,
    f.bitPos_injOn hex.choose_spec.1 hk hex.choose_spec.2]

/-- A setter changes no bit outside its field. -/
lemma bitAt_put_of_forall_ne {f : Field} {bs : List UInt8} (hfit : f.Fits bs) (v : ℕ) {i : ℕ}
    (hi : ∀ k < f.width, f.bitPos k ≠ i) : bitAt (f.put bs v) i = bitAt bs i := by
  rw [put, bitAt_putLow hfit v (Nat.le_refl _), dif_neg]
  rintro ⟨k, hk, hki⟩
  exact hi k hk hki

/-- Reading a field after it was set gives the value, truncated to the field. -/
lemma val_put {f : Field} {bs : List UInt8} (hfit : f.Fits bs) (v : ℕ) :
    f.val (f.put bs v) = v % 2 ^ f.width := by
  apply Nat.eq_of_testBit_eq
  intro k
  rw [testBit_val, Nat.testBit_mod_two_pow]
  by_cases hk : k < f.width
  · simp [hk, bitAt_put_pos hfit v hk]
  · simp [hk]

/-- Two fields share no bit. -/
def Disjoint (f g : Field) : Prop :=
  ∀ j < f.width, ∀ k < g.width, f.bitPos j ≠ g.bitPos k

instance (f g : Field) : Decidable (f.Disjoint g) :=
  inferInstanceAs (Decidable (∀ j < f.width, ∀ k < g.width, f.bitPos j ≠ g.bitPos k))

/-- Setting one field leaves a disjoint one as it was. -/
lemma val_put_of_disjoint {f g : Field} {bs : List UInt8} (hfit : g.Fits bs)
    (hfg : f.Disjoint g) (v : ℕ) : f.val (g.put bs v) = f.val bs := by
  apply Nat.eq_of_testBit_eq
  intro k
  rw [testBit_val, testBit_val]
  by_cases hk : k < f.width
  · rw [bitAt_put_of_forall_ne hfit v (fun j hj h => hfg k hk j hj h.symm)]
  · simp [hk]

/-- A field depends only on the bits at its positions. -/
lemma val_congr {f : Field} {bs bs' : List UInt8}
    (h : ∀ k < f.width, bitAt bs (f.bitPos k) = bitAt bs' (f.bitPos k)) :
    f.val bs = f.val bs' := by
  apply Nat.eq_of_testBit_eq
  intro k
  rw [testBit_val, testBit_val]
  by_cases hk : k < f.width
  · rw [h k hk]
  · simp [hk]

end Field

lemma bitAt_append_left {bs cs : List UInt8} {i : ℕ} (hi : i / 8 < bs.length) :
    bitAt (bs ++ cs) i = bitAt bs i := by
  simp [bitAt, List.getD_eq_getElem?_getD, List.getElem?_append_left hi]

lemma bitAt_eq_of_take_eq {bs cs : List UInt8} {n i : ℕ} (h : bs.take n = cs.take n)
    (hi : i / 8 < n) : bitAt bs i = bitAt cs i := by
  have hget : bs[i / 8]? = cs[i / 8]? := by
    have := congrArg (fun l => l[i / 8]?) h
    simpa [List.getElem?_take, hi] using this
  simp [bitAt, List.getD_eq_getElem?_getD, hget]

namespace Field

/-- A field inside the first `n` bytes depends on these bytes only. -/
lemma val_eq_of_take_eq {f : Field} {bs cs : List UInt8} {n : ℕ}
    (h : bs.take n = cs.take n) (hf : f.msb / 8 < n) : f.val bs = f.val cs := by
  apply val_congr
  intro k hk
  exact bitAt_eq_of_take_eq h (Nat.lt_of_le_of_lt (f.bitPos_byte_le hk) hf)

lemma val_append_left {f : Field} {bs : List UInt8} (hfit : f.Fits bs) (cs : List UInt8) :
    f.val (bs ++ cs) = f.val bs :=
  val_congr fun _ hk => bitAt_append_left (bitPos_byte_lt hfit hk)

/-- A setter works inside the part of the slice that holds its field. -/
lemma put_append_left {f : Field} {bs : List UInt8} (hfit : f.Fits bs) (cs : List UInt8) (v : ℕ) :
    f.put (bs ++ cs) v = f.put bs v ++ cs := by
  have hlow : ∀ n ≤ f.width, f.putLow (bs ++ cs) v n = f.putLow bs v n ++ cs := by
    intro n hn
    induction n with
    | zero => rfl
    | succ n ih =>
        have hlt : f.bitPos n / 8 < (f.putLow bs v n).length := by
          simpa using bitPos_byte_lt hfit (Nat.lt_of_succ_le hn)
        rw [putLow, putLow, ih (by omega), setBit_append_left hlt]
  exact hlow _ (Nat.le_refl _)

/-- A setter leaves everything behind its field as it was. -/
lemma drop_put {f : Field} {bs : List UInt8} {n : ℕ} (hn : f.msb / 8 < n) (v : ℕ) :
    (f.put bs v).drop n = bs.drop n := by
  have hlow : ∀ m ≤ f.width, (f.putLow bs v m).drop n = bs.drop n := by
    intro m hm
    induction m with
    | zero => rfl
    | succ m ih =>
        have hlt := f.bitPos_byte_le (Nat.lt_of_succ_le hm)
        rw [putLow, drop_setBit (by omega), ih (by omega)]
  exact hlow _ (Nat.le_refl _)

@[simp] lemma fits_put {f g : Field} {bs : List UInt8} {v : ℕ} :
    f.Fits (g.put bs v) ↔ f.Fits bs := by
  simp [Fits]

lemma fits_of_le {f : Field} {bs : List UInt8} {n : ℕ} (hf : f.msb / 8 < n)
    (hn : n ≤ bs.length) : f.Fits bs := Nat.lt_of_lt_of_le hf hn

/-! ## Several assignments -/

/-- The slice after a sequence of setters. -/
def putAll (bs : List UInt8) (assignments : List (Field × ℕ)) : List UInt8 :=
  assignments.foldl (fun bs a => a.1.put bs a.2) bs

@[simp] lemma putAll_nil (bs : List UInt8) : putAll bs [] = bs := rfl

@[simp] lemma putAll_cons (bs : List UInt8) (a : Field × ℕ) (as : List (Field × ℕ)) :
    putAll bs (a :: as) = putAll (a.1.put bs a.2) as := rfl

@[simp] lemma length_putAll (bs : List UInt8) (as : List (Field × ℕ)) :
    (putAll bs as).length = bs.length := by
  induction as generalizing bs with
  | nil => rfl
  | cons a as ih => simp [ih]

lemma drop_putAll {bs : List UInt8} {as : List (Field × ℕ)} {n : ℕ}
    (hn : ∀ f ∈ as.map Prod.fst, f.msb / 8 < n) : (putAll bs as).drop n = bs.drop n := by
  induction as generalizing bs with
  | nil => rfl
  | cons a as ih =>
      simp only [List.map_cons, List.forall_mem_cons] at hn
      rw [putAll_cons, ih hn.2, drop_put hn.1]

/-- A field keeps its value when only disjoint fields are assigned. -/
lemma val_putAll_of_disjoint {f : Field} {bs : List UInt8} {as : List (Field × ℕ)}
    (hfit : ∀ g ∈ as.map Prod.fst, g.Fits bs) (hdis : ∀ g ∈ as.map Prod.fst, f.Disjoint g) :
    f.val (putAll bs as) = f.val bs := by
  induction as generalizing bs with
  | nil => rfl
  | cons a as ih =>
      simp only [List.map_cons, List.forall_mem_cons] at hfit hdis
      rw [putAll_cons, ih (fun g hg => fits_put.mpr (hfit.2 g hg)) hdis.2,
        val_put_of_disjoint hfit.1 hdis.1]

/-- **Disjoint setters.**  After assignments to pairwise disjoint fields, each of them has the
value it was assigned. -/
lemma val_putAll_of_mem {f : Field} {v : ℕ} {bs : List UInt8} {as : List (Field × ℕ)}
    (hfit : ∀ g ∈ as.map Prod.fst, g.Fits bs) (hdis : (as.map Prod.fst).Pairwise Field.Disjoint)
    (hmem : (f, v) ∈ as) : f.val (putAll bs as) = v % 2 ^ f.width := by
  induction as generalizing bs with
  | nil => cases hmem
  | cons a as ih =>
      simp only [List.map_cons, List.forall_mem_cons, List.pairwise_cons] at hfit hdis
      have hrest : ∀ g ∈ as.map Prod.fst, g.Fits (a.1.put bs a.2) :=
        fun g hg => fits_put.mpr (hfit.2 g hg)
      rcases List.mem_cons.mp hmem with rfl | hmem
      · rw [putAll_cons, val_putAll_of_disjoint hrest hdis.1, val_put hfit.1]
      · rw [putAll_cons, ih hrest hdis.2 hmem]

/-- A sequence of setters. -/
def setAll (bs : List UInt8) (assignments : List (Field × ℕ)) : Exec (List UInt8) :=
  assignments.foldlM (fun bs a => a.1.set bs a.2) bs

/-- Setters return exactly if all their fields lie inside the slice. -/
lemma setAll_eq_ok_iff {bs bs' : List UInt8} {as : List (Field × ℕ)} :
    setAll bs as = .ok bs' ↔ (∀ f ∈ as.map Prod.fst, f.Fits bs) ∧ bs' = putAll bs as := by
  induction as generalizing bs with
  | nil => simp [setAll, eq_comm]
  | cons a as ih =>
      have hcons : setAll bs (a :: as) = (a.1.set bs a.2 >>= fun bs => setAll bs as) := by
        rw [setAll, List.foldlM_cons]
        rfl
      rw [hcons, Exec.bind_eq_ok]
      simp only [set_eq_ok_iff, List.map_cons, List.forall_mem_cons, putAll_cons]
      constructor
      · rintro ⟨bs₁, ⟨hfits, rfl⟩, hrest⟩
        obtain ⟨hall, rfl⟩ := ih.mp hrest
        exact ⟨⟨hfits, fun f hf => fits_put.mp (hall f hf)⟩, rfl⟩
      · rintro ⟨⟨hfits, hall⟩, rfl⟩
        exact ⟨_, ⟨hfits, rfl⟩, ih.mpr ⟨fun f hf => fits_put.mpr (hall f hf), rfl⟩⟩

/-- Setters inside the front of a slice leave the rest alone. -/
lemma putAll_append_left {bs cs : List UInt8} {as : List (Field × ℕ)}
    (hfit : ∀ f ∈ as.map Prod.fst, f.Fits bs) : putAll (bs ++ cs) as = putAll bs as ++ cs := by
  induction as generalizing bs with
  | nil => rfl
  | cons a as ih =>
      simp only [List.map_cons, List.forall_mem_cons] at hfit
      rw [putAll_cons, putAll_cons, put_append_left hfit.1,
        ih fun f hf => fits_put.mpr (hfit.2 f hf)]

end Field

/-! ## Bitwise or -/

/-- The byte-wise or of two slices. -/
def orBytes (bs cs : List UInt8) : List UInt8 := List.zipWith (· ||| ·) bs cs

@[simp] lemma length_orBytes (bs cs : List UInt8) :
    (orBytes bs cs).length = min bs.length cs.length := by
  simp [orBytes]

lemma bitAt_orBytes {bs cs : List UInt8} (h : bs.length = cs.length) (i : ℕ) :
    bitAt (orBytes bs cs) i = (bitAt bs i || bitAt cs i) := by
  unfold bitAt orBytes
  by_cases hi : i / 8 < bs.length
  · have hi' : i / 8 < cs.length := h ▸ hi
    simp [List.getD_eq_getElem?_getD, hi, hi']
  · have hi' : ¬ i / 8 < cs.length := h ▸ hi
    simp [List.getD_eq_getElem?_getD, hi, hi']

/-- The bits of a field of an or. -/
lemma Field.val_orBytes {bs cs : List UInt8} (h : bs.length = cs.length) (f : Field) :
    f.val (orBytes bs cs) = f.val bs ||| f.val cs := by
  apply Nat.eq_of_testBit_eq
  intro k
  rw [Nat.testBit_or, Field.testBit_val, Field.testBit_val, Field.testBit_val, bitAt_orBytes h,
    Bool.and_or_distrib_left]

/-- The or of the numbers of a list. -/
def orAll (ns : List ℕ) : ℕ := ns.foldr (· ||| ·) 0

lemma orAll_cons (n : ℕ) (ns : List ℕ) : orAll (n :: ns) = n ||| orAll ns := rfl

/-- The or of a list has the bits of each of its members. -/
lemma or_orAll_of_mem {n : ℕ} {ns : List ℕ} (h : n ∈ ns) : n ||| orAll ns = orAll ns := by
  induction ns with
  | nil => cases h
  | cons m ns ih =>
      rw [orAll_cons]
      rcases List.mem_cons.mp h with rfl | h
      · rw [← Nat.or_assoc, Nat.or_self]
      · rw [Nat.or_left_comm, ih h]

/-- And it has no others. -/
lemma orAll_or_of_forall {c : ℕ} {ns : List ℕ} (h : ∀ n ∈ ns, n ||| c = c) :
    orAll ns ||| c = c := by
  induction ns with
  | nil => exact Nat.zero_or c
  | cons n ns ih =>
      rw [List.forall_mem_cons] at h
      rw [orAll_cons, Nat.or_assoc, ih h.2, h.1]

end BitField
