import EtherCat.Foundation.BitField

/-!
# What setters leave over

Setters write the bits of their fields and no others, so that of two slices the same bytes become
exactly if they agree on the bits that no field covers (`putAll_eq_putAll_iff`).
-/

namespace BitField

/-- Slices of one length are equal if their bits are. -/
lemma eq_iff_bitAt {bs cs : List UInt8} (hlength : bs.length = cs.length) :
    bs = cs ↔ ∀ j < 8 * bs.length, bitAt bs j = bitAt cs j := by
  constructor
  · rintro rfl _ _
    rfl
  · intro h
    refine List.ext_getElem hlength fun i hi hi' => ?_
    apply UInt8.toBitVec_inj.mp
    refine BitVec.eq_of_getLsbD_eq fun t ht => ?_
    have hbit := h (8 * i + t) (by omega)
    simp only [bitAt, show (8 * i + t) / 8 = i by omega, show (8 * i + t) % 8 = t by omega,
      List.getD_eq_getElem _ _ hi, List.getD_eq_getElem _ _ hi'] at hbit
    exact hbit

lemma bitAt_take {bs : List UInt8} {n j : ℕ} (hj : j < 8 * n) :
    bitAt (bs.take n) j = bitAt bs j := by
  rw [bitAt, bitAt, List.getD_eq_getElem?_getD, List.getElem?_take_of_lt (by omega),
    List.getD_eq_getElem?_getD]

lemma bitAt_drop (bs : List UInt8) (n j : ℕ) : bitAt (bs.drop n) j = bitAt bs (8 * n + j) := by
  rw [bitAt, bitAt, List.getD_eq_getElem?_getD, List.getElem?_drop, List.getD_eq_getElem?_getD,
    show (8 * n + j) / 8 = n + j / 8 by omega, show (8 * n + j) % 8 = j % 8 by omega]

namespace Field

/-- The bit belongs to one of the fields. -/
def Covered (fields : List Field) (j : ℕ) : Prop := ∃ f ∈ fields, ∃ k < f.width, f.bitPos k = j

instance (fields : List Field) (j : ℕ) : Decidable (Covered fields j) :=
  inferInstanceAs (Decidable (∃ f ∈ fields, ∃ k < f.width, f.bitPos k = j))

variable {as : List (Field × ℕ)}

/-- A bit that no field covers stays. -/
lemma bitAt_putAll_of_not_covered {bs : List UInt8} (hfits : ∀ f ∈ as.map Prod.fst, f.Fits bs)
    {j : ℕ} (hj : ¬ Covered (as.map Prod.fst) j) : bitAt (putAll bs as) j = bitAt bs j := by
  induction as generalizing bs with
  | nil => rfl
  | cons a as ih =>
      simp only [List.map_cons, List.forall_mem_cons] at hfits
      rw [putAll_cons, ih (fun f hf => fits_put.mpr (hfits.2 f hf)),
        bitAt_put_of_forall_ne hfits.1]
      · exact fun k hk hpos => hj ⟨a.1, List.mem_cons_self, k, hk, hpos⟩
      · rintro ⟨f, hf, hcovers⟩
        exact hj ⟨f, List.mem_cons_of_mem _ hf, hcovers⟩

/-- A bit that a field covers does not depend on what was there. -/
lemma bitAt_putAll_of_covered {bs cs : List UInt8} (hbs : ∀ f ∈ as.map Prod.fst, f.Fits bs)
    (hcs : ∀ f ∈ as.map Prod.fst, f.Fits cs) {j : ℕ} (hj : Covered (as.map Prod.fst) j) :
    bitAt (putAll bs as) j = bitAt (putAll cs as) j := by
  induction as generalizing bs cs with
  | nil =>
      obtain ⟨_, hmem, -⟩ := hj
      cases hmem
  | cons a as ih =>
      simp only [List.map_cons, List.forall_mem_cons] at hbs hcs
      have hbs' : ∀ f ∈ as.map Prod.fst, f.Fits (a.1.put bs a.2) := fun f hf =>
        fits_put.mpr (hbs.2 f hf)
      have hcs' : ∀ f ∈ as.map Prod.fst, f.Fits (a.1.put cs a.2) := fun f hf =>
        fits_put.mpr (hcs.2 f hf)
      rw [putAll_cons, putAll_cons]
      by_cases hlater : Covered (as.map Prod.fst) j
      · exact ih hbs' hcs' hlater
      · obtain ⟨f, hmem, k, hk, rfl⟩ := hj
        rcases List.mem_cons.mp hmem with rfl | hmem
        · rw [bitAt_putAll_of_not_covered hbs' hlater, bitAt_putAll_of_not_covered hcs' hlater,
            bitAt_put_pos hbs.1 _ hk, bitAt_put_pos hcs.1 _ hk]
        · exact absurd ⟨f, hmem, k, hk, rfl⟩ hlater

/-- **Setters over two slices.**  The same bytes become of both exactly if they agree on the bits that
no field covers. -/
theorem putAll_eq_putAll_iff {bs cs : List UInt8} (hlength : bs.length = cs.length)
    (hfits : ∀ f ∈ as.map Prod.fst, f.Fits bs) :
    putAll bs as = putAll cs as ↔
      ∀ j < 8 * bs.length, ¬ Covered (as.map Prod.fst) j → bitAt bs j = bitAt cs j := by
  have hcs : ∀ f ∈ as.map Prod.fst, f.Fits cs := fun f hf => by
    rw [Fits, ← hlength]
    exact hfits f hf
  rw [eq_iff_bitAt (by rw [length_putAll, length_putAll, hlength]), length_putAll]
  refine forall₂_congr fun j _ => ?_
  by_cases hj : Covered (as.map Prod.fst) j
  · exact iff_of_true (bitAt_putAll_of_covered hfits hcs hj) fun hnot => absurd hj hnot
  · rw [bitAt_putAll_of_not_covered hfits hj, bitAt_putAll_of_not_covered hcs hj]
    exact ⟨fun h _ => h, fun h => h hj⟩

/-- The same for `n` bytes of a slice each, from byte `i` on. -/
lemma putAll_take_drop_eq_iff {bs cs : List UInt8} {i n : ℕ} (hbs : i + n ≤ bs.length)
    (hcs : i + n ≤ cs.length) (hfits : ∀ f ∈ as.map Prod.fst, f.msb / 8 < n) :
    putAll ((bs.drop i).take n) as = putAll ((cs.drop i).take n) as ↔
      ∀ j < 8 * n, ¬ Covered (as.map Prod.fst) j → bitAt bs (8 * i + j) = bitAt cs (8 * i + j) := by
  have hlength {ds : List UInt8} (hds : i + n ≤ ds.length) : ((ds.drop i).take n).length = n := by
    rw [List.length_take, List.length_drop]
    omega
  rw [putAll_eq_putAll_iff ((hlength hbs).trans (hlength hcs).symm)
    fun f hf => fits_of_le (hfits f hf) (hlength hbs).ge, hlength hbs]
  refine forall₂_congr fun j hj => ?_
  rw [bitAt_take hj, bitAt_take hj, bitAt_drop, bitAt_drop]

end Field

end BitField
